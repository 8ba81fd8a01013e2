import Stackline.Literal
import Stackline.State
import Stackline.Statement.Basic

/-!
What statements do. A statement has two positions, those of its first and of its last token, which
are the same in a program read from a source.
-/

namespace Stackline

variable {σ : Type}

/--
Whether a name has a character that no variable may have in its name.
-/
def hasBadCharacter (name : Text) : Bool :=
  name.any (· ∈ [' ', '(', ')', '{', '}', '[', ']'])

/--
Why a name can not be declared, if it can not.
-/
def Scope.refusal? (scope : Scope) (name : Text) : Option Cause :=
  if isReserved name then
    some (.reservedName name)
  else if hasBadCharacter name then
    some (.badName name)
  else
    (scope.get? name).map fun x => .alreadyDefined name x.position.line

theorem Scope.refusal?_eq_none_iff {scope : Scope} {name : Text} :
    scope.refusal? name = none ↔
      isReserved name = false ∧ hasBadCharacter name = false ∧ scope.get? name = none := by
  unfold refusal?
  split
  next h => simp [h]
  next h =>
    split
    next hbad => simp [hbad]
    next hbad => simp [h, hbad]

namespace Statement

def execArith (op : Operator) (first : Position) (state : State σ) : Outcome σ :=
  match state.stack with
  | a :: b :: stack =>
    let popped := { state with stack }
    if a.isBool || b.isBool then
      popped.fail first (.boolOperand op)
    else
      match op.apply a b with
      | .ok value => popped.push value
      | .error error => popped.fail first (.arithmetic error)
  | _ => state.fail first (.stackUnderflow (.arith op))

/--
Push the value of a variable, which leaves the scope even if it has no value.
-/
def execTake (name : Text) (first last : Position) (state : State σ) : Outcome σ :=
  match state.scope.get? name with
  | none => state.fail first (.unknownVariable name)
  | some x =>
    let taken := { state with scope := state.scope.erase name }
    match x.value? with
    | none => taken.fail last (.unassigned name)
    | some value => taken.push value

/--
Move the top value into a variable, which takes on the type of the value.
-/
def execPop (name : Text) (first last : Position) (state : State σ) : Outcome σ :=
  match state.stack with
  | [] => state.fail first (.stackUnderflow .pop)
  | value :: stack =>
    match state.scope.get? name with
    | none => state.fail first (.unknownVariable name)
    | some _ =>
      State.done
        { state with stack, scope := state.scope.insert name ⟨name, value.ty, last, some value⟩ }

def execDrop (name : Text) (first : Position) (state : State σ) : Outcome σ :=
  match state.scope.get? name with
  | none => state.fail first (.unknownVariable name)
  | some _ => State.done { state with scope := state.scope.erase name }

def execVar (ty : Ty) (name : Text) (first last : Position) (state : State σ) : Outcome σ :=
  match state.scope.refusal? name with
  | some cause => state.fail first cause
  | none => State.done { state with scope := state.scope.insert name ⟨name, ty, last, none⟩ }

/--
Assign a literal to a variable, read according to the type that the variable has.
-/
def execMove (name text : Text) (first last : Position) (state : State σ) : Outcome σ :=
  match state.scope.get? name with
  | none => state.fail first (.unknownVariable name)
  | some x =>
    match Literal.read state.scope x.ty text with
    | .error cause => state.fail last cause
    | .ok value =>
      State.done { state with scope := state.scope.insert name { x with value? := some value } }

/--
Execute a statement.
-/
def exec [Sink σ] (s : Statement) (first last : Position) (state : State σ) : Outcome σ :=
  match s with
  | .push (.literal ty text) | .pushd (.literal ty text) =>
    state.pushOr last (Literal.read state.scope ty text)
  | .push (.name (some name)) => state.pushOr last (state.scope.read name)
  | .pushd (.name (some name)) => execTake name first last state
  | .push (.name none) => state.fail first (.missingName .push)
  | .pushd (.name none) => state.fail first (.missingName .pushd)
  | .arith op => execArith op first state
  | .discard =>
    match state.stack with
    | [] => state.fail first (.stackUnderflow .pop)
    | _ :: stack => State.done { state with stack }
  | .pop (some name) => execPop name first last state
  | .pop none =>
    if state.stack.isEmpty then
      state.fail first (.stackUnderflow .pop)
    else
      state.fail first (.missingName .pop)
  | .drop (some name) => execDrop name first state
  | .drop none => state.fail first (.missingName .drop)
  | .var ty name => execVar ty name first last state
  | .move name text => execMove name text first last state
  | .print =>
    match state.stack with
    | [] => state.fail first (.stackUnderflow .print)
    | value :: stack => State.print { state with stack } value
  | .printVariable name =>
    match state.scope.read name with
    | .error cause => state.fail last cause
    | .ok value => state.print value

end Statement

/--
What must hold when a program ends: nothing is left on the stack, and no variable in scope.
-/
def State.finish (state : State σ) (position : Position) : Outcome σ :=
  if state.stack ≠ [] then
    state.fail position (.leftoverValues state.stack)
  else if state.scope ≠ [] then
    state.fail position (.leftoverVariables state.scope.byLine)
  else
    state.done

namespace State

theorem state_finish (state : State σ) (position : Position) :
    (state.finish position).state = state := by
  unfold finish
  split
  · rfl
  · split <;> rfl

theorem fault?_finish_eq_none_iff {state : State σ} {position : Position} :
    (state.finish position).fault? = none ↔ state.stack = [] ∧ state.scope = [] := by
  unfold finish
  split
  next h => simp [fail, h]
  next h =>
    split
    next hscope => simp [fail, hscope]
    next hscope => simp_all [done]

end State
end Stackline
