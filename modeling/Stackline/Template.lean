import Stackline.Fault

/-!
The text of a string literal between its quotes, in which a name between `${` and `}` stands for
the value of a variable. An opening without a closing brace behind it is plain text.
-/

namespace Stackline

/--
The value of a variable.
-/
def Scope.read (scope : Scope) (name : Text) : Except Cause Value :=
  match scope.get? name with
  | none => .error (.unknownVariable name)
  | some x =>
    match x.value? with
    | none => .error (.unassigned name)
    | some v => .ok v

inductive Template where
  /-- Plain text to the end. -/
  | plain (t : Text)
  /-- Plain text, the name of a variable, and what follows. -/
  | hole (before name : Text) (rest : Template)
  deriving Repr, DecidableEq

namespace Template

/--
Find the holes of a text from left to right. The plain text since the last hole and the name of an
opened hole are carried along, the latest character first.
-/
def parse (t : Text) : Template :=
  outside [] t
where
  outside (before : Text) : Text → Template
    | [] => .plain before.reverse
    | '$' :: '{' :: t => inside before [] t
    | c :: t => outside (c :: before) t
  inside (before name : Text) : Text → Template
    | [] => .plain (before.reverse ++ '$' :: '{' :: name.reverse)
    | c :: t =>
      if c = '}' then .hole before.reverse name.reverse (outside [] t)
      else inside before (c :: name) t

/--
The text that was parsed.
-/
def source : Template → Text
  | .plain t => t
  | .hole before name rest => before ++ '$' :: '{' :: name ++ '}' :: rest.source

mutual

theorem parse.source_outside (before t : Text) :
    (parse.outside before t).source = before.reverse ++ t := by
  match t with
  | [] => simp [parse.outside, source]
  | '$' :: '{' :: t => simp [parse.outside, parse.source_inside before [] t]
  | c :: t =>
    unfold parse.outside
    split
    next h => simp_all
    next t h =>
      cases h
      simp [parse.source_inside before [] t]
    next c t _ h =>
      cases h
      simp [parse.source_outside (c :: before) t]
termination_by t.length

theorem parse.source_inside (before name t : Text) :
    (parse.inside before name t).source =
      before.reverse ++ '$' :: '{' :: name.reverse ++ t := by
  match t with
  | [] => simp [parse.inside, source]
  | c :: t =>
    unfold parse.inside
    split
    next h => simp [source, h, parse.source_outside [] t]
    next h => simp [parse.source_inside before (c :: name) t]
termination_by t.length

end

/--
Parsing loses nothing.
-/
@[simp]
theorem source_parse (t : Text) : (parse t).source = t := by
  simp [parse, parse.source_outside]

/--
Put the values of the variables in the place of their names. Values are not searched for holes.
-/
def fill (scope : Scope) : Template → Except Cause Text
  | .plain t => .ok t
  | .hole before name rest => do
    let value ← scope.read name
    return before ++ value.display ++ (← rest.fill scope)

end Template
end Stackline
