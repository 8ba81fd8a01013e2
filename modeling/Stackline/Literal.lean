import Stackline.Template

/-!
The value of a literal, read from its text according to a type.
-/

namespace Stackline
namespace Literal

/--
The word that holds the whole number of a text.
-/
def readWord (text : Text) : Except Cause Int64 :=
  match (Integer.read? text).bind Integer.fit? with
  | some n => .ok n
  | none => .error (.incompatibleLiteral text)

/--
The word of an integer literal. A text with a point is refused before it is read.
-/
def readInt (text : Text) : Except Cause Int64 :=
  if '.' ∈ text then .error (.incompatibleLiteral text) else readWord text

theorem readWord_eq_ok_iff {text : Text} {n : Int64} :
    readWord text = .ok n ↔ Integer.read? text = some n.toInt := by
  unfold readWord
  cases h : Integer.read? text with
  | none => simp
  | some k =>
    cases hk : Integer.fit? k with
    | none =>
      simp only [Option.bind_some, hk, reduceCtorEq, Option.some.injEq, false_iff]
      rintro rfl
      simp at hk
    | some w =>
      obtain rfl := Integer.fit?_eq_some_iff.1 hk
      simp [Int64.toInt_inj]

theorem readWord_of_read?_eq_none {text : Text} (h : Integer.read? text = none) :
    readWord text = .error (.incompatibleLiteral text) := by
  rw [readWord, h, Option.bind_none]

/--
The test for a point changes nothing: a text with a point denotes no whole number.
-/
theorem readInt_eq_readWord (text : Text) : readInt text = readWord text := by
  unfold readInt
  split
  next h => rw [readWord_of_read?_eq_none (Integer.read?_of_point_mem h)]
  next => rfl

theorem readInt_eq_ok_iff {text : Text} {n : Int64} :
    readInt text = .ok n ↔ Integer.read? text = some n.toInt := by
  rw [readInt_eq_readWord, readWord_eq_ok_iff]

def readFloat (text : Text) : Except Cause Float :=
  match Double.read? text with
  | some x => .ok x
  | none => .error (.incompatibleLiteral text)

def readBool (text : Text) : Except Cause Bool :=
  if Text.eqFold text "true".toList then
    .ok true
  else if Text.eqFold text "false".toList then
    .ok false
  else
    .error (.invalidBoolean text)

/--
The text between the quotes that begin and end a literal.
-/
def unquote : Text → Except Cause Text
  | '"' :: rest =>
    if rest.getLast? = some '"' then .ok rest.dropLast else .error .missingClosingQuote
  | _ => .error .missingOpeningQuote

/--
The value of a literal of a type. Only strings depend on the scope.
-/
def read (scope : Scope) (ty : Ty) (text : Text) : Except Cause Value :=
  match ty with
  | .int => (readInt text).map .int
  | .uint => do
    let n ← readInt text
    if n < 0 then throw (.negativeInteger text) else return .int n
  | .float => (readFloat text).map .float
  | .ufloat => do
    let x ← readFloat text
    if x < 0 then throw (.negativeFloat text) else return .float x
  | .bool => (readBool text).map .bool
  | .string => do
    let inner ← unquote text
    return .str (← (Template.parse inner).fill scope)

end Literal
end Stackline
