import Stackline.Proofs.Block
import Stackline.Proofs.Faults

/-!
What becomes of an execution when the places in the source are told in another way. Main statement:
execution commutes with each relocation that keeps the lines in their order, so that no value, no
decision and no message but for the line numbers in it depends on where a program stands.
-/

namespace Stackline

variable {σ : Type}

/--
Other numbers for lines, in the same order, and other spans.
-/
structure Relocation where
  line : Nat → Nat
  span : Span → Span
  line_lt_iff : ∀ {m n : Nat}, line m < line n ↔ m < n

theorem Relocation.line_inj (r : Relocation) {m n : Nat} : r.line m = r.line n ↔ m = n := by
  have hlt := @r.line_lt_iff m n
  have hgt := @r.line_lt_iff n m
  constructor
  · intro h
    omega
  · intro h
    rw [h]

def Position.relocate (r : Relocation) (position : Position) : Position :=
  ⟨r.line position.line, r.span position.span⟩

def Label.relocate (r : Relocation) (label : Label) : Label :=
  ⟨label.text, r.span label.span⟩

def Variable.relocate (r : Relocation) (x : Variable) : Variable :=
  { x with position := x.position.relocate r }

def Scope.relocate (r : Relocation) (scope : Scope) : Scope :=
  scope.map fun entry => (entry.1, entry.2.relocate r)

def State.relocate (r : Relocation) (state : State σ) : State σ :=
  ⟨state.stack, state.scope.relocate r, state.sink⟩

def Cause.relocate (r : Relocation) : Cause → Cause
  | .alreadyDefined name line => .alreadyDefined name (r.line line)
  | .leftoverVariables left => .leftoverVariables (left.map (Variable.relocate r))
  | cause => cause

def Fault.relocate (r : Relocation) : Fault → Fault
  | .located position cause => .located (position.relocate r) (cause.relocate r)
  | fault => fault

def Outcome.relocate (r : Relocation) (outcome : Outcome σ) : Outcome σ :=
  outcome.map (State.relocate r) (Fault.relocate r)

def Instruction.relocate (r : Relocation) (i : Instruction) : Instruction :=
  ⟨i.position.relocate r, i.statement⟩

def Block.relocate (r : Relocation) (block : Block) : Block :=
  block.map (Instruction.relocate r)

variable (r : Relocation)

namespace Cause

theorem relocate_of_isLiteral {cause : Cause} (h : cause.isLiteral) : cause.relocate r = cause := by
  cases cause with
  | alreadyDefined _ _ | leftoverVariables _ => cases h
  | _ => rfl

theorem relocate_of_isReading {cause : Cause} (h : cause.isReading) : cause.relocate r = cause := by
  cases cause with
  | alreadyDefined _ _ | leftoverVariables _ => cases h
  | _ => rfl

theorem category_relocate (cause : Cause) : (cause.relocate r).category = cause.category := by
  cases cause <;> rfl

end Cause

namespace Fault

theorem code_relocate (fault : Fault) : (fault.relocate r).code = fault.code := by
  cases fault with
  | located position cause => simp only [relocate, code, Cause.category_relocate]
  | unreadable path reason => rfl
  | output => rfl

theorem position?_relocate (fault : Fault) :
    (fault.relocate r).position? = fault.position?.map (Position.relocate r) := by
  cases fault <;> rfl

theorem labels_relocate (fault : Fault) :
    (fault.relocate r).labels = fault.labels.map (Label.relocate r) := by
  cases fault with
  | located position cause =>
    simp only [relocate, labels, Cause.category_relocate, List.map_cons]
    congr 1
    cases cause with
    | leftoverVariables left =>
      simp only [Cause.relocate, labels.related, List.map_map]
      rfl
    | _ => rfl
  | unreadable path reason => rfl
  | output => rfl

end Fault

namespace Scope

theorem get?_relocate (scope : Scope) (name : Text) :
    (scope.relocate r).get? name = (scope.get? name).map (Variable.relocate r) := by
  induction scope with
  | nil => rfl
  | cons entry scope ih =>
    simp only [relocate, List.map_cons, get?_cons] at ih ⊢
    split
    · rfl
    · exact ih

theorem erase_relocate (scope : Scope) (name : Text) :
    (scope.relocate r).erase name = (scope.erase name).relocate r := by
  simp only [erase, relocate, List.filter_map]
  rfl

theorem insert_relocate (scope : Scope) (name : Text) (x : Variable) :
    (scope.relocate r).insert name (x.relocate r) = (scope.insert name x).relocate r := by
  simp only [insert, erase_relocate]
  rfl

theorem read_relocate (scope : Scope) (name : Text) : (scope.relocate r).read name = scope.read name := by
  rw [read, get?_relocate, read]
  cases scope.get? name with
  | none => rfl
  | some x => rfl

theorem refusal?_relocate (scope : Scope) (name : Text) :
    (scope.relocate r).refusal? name = (scope.refusal? name).map (Cause.relocate r) := by
  unfold refusal?
  split
  · rfl
  · split
    · rfl
    · rw [get?_relocate]
      cases scope.get? name with
      | none => rfl
      | some x => rfl

theorem byLine_relocate (scope : Scope) :
    (scope.relocate r).byLine = scope.byLine.map (Variable.relocate r) := by
  simp only [byLine, held, relocate, List.map_map]
  -- the lines stay in their order, and so do the variables
  rw [List.map_mergeSort]
  · rw [List.map_map]
    rfl
  · intro x _ y _
    dsimp only [Variable.relocate, Position.relocate]
    rw [Bool.eq_iff_iff]
    simp only [Bool.or_eq_true, Bool.and_eq_true, decide_eq_true_eq, r.line_lt_iff, r.line_inj]

end Scope

theorem Template.fill_relocate (scope : Scope) (template : Template) :
    template.fill (scope.relocate r) = template.fill scope := by
  induction template with
  | plain t => rfl
  | hole before name rest ih =>
    simp only [fill]
    rw [ih, Scope.read_relocate]

theorem Literal.read_relocate (scope : Scope) (ty : Ty) (text : Text) :
    read (scope.relocate r) ty text = read scope ty text := by
  cases ty with
  | string =>
    simp only [read]
    simp only [Template.fill_relocate]
  | _ => rfl

namespace State

@[simp]
theorem scope_relocate (state : State σ) : (state.relocate r).scope = state.scope.relocate r := rfl

@[simp]
theorem sink_relocate (state : State σ) : (state.relocate r).sink = state.sink := rfl

theorem fail_relocate (state : State σ) (position : Position) (cause : Cause) :
    (state.relocate r).fail (position.relocate r) (cause.relocate r) = (state.fail position cause).relocate r :=
  rfl

theorem fail_relocate_of_isLiteral {cause : Cause} (h : cause.isLiteral) (state : State σ)
    (position : Position) :
    (state.relocate r).fail (position.relocate r) cause = (state.fail position cause).relocate r := by
  rw [← fail_relocate, Cause.relocate_of_isLiteral r h]

theorem pushOr_relocate {result : Except Cause Value}
    (h : ∀ cause, result = .error cause → cause.isLiteral) (state : State σ) (position : Position) :
    (state.relocate r).pushOr (position.relocate r) result = (state.pushOr position result).relocate r := by
  cases result with
  | ok value => rfl
  | error cause => exact fail_relocate_of_isLiteral r (h cause rfl) state position

theorem print_relocate [Sink σ] (state : State σ) (value : Value) :
    (state.relocate r).print value = (state.print value).relocate r := by
  cases h : Sink.write state.sink (Text.utf8 (value.display ++ ['\n'])) with
  | mk sink complete =>
    simp only [print, sink_relocate, h]
    cases complete <;> rfl

end State

namespace Statement

open State

theorem execArith_relocate (op : Operator) (first : Position) (state : State σ) :
    execArith op (first.relocate r) (state.relocate r) = (execArith op first state).relocate r := by
  simp only [execArith, State.relocate]
  split
  next =>
    split
    · rfl
    · split <;> rfl
  next => rfl

theorem execTake_relocate (name : Text) (first last : Position) (state : State σ) :
    execTake name (first.relocate r) (last.relocate r) (state.relocate r) =
      (execTake name first last state).relocate r := by
  simp only [execTake, State.relocate, Scope.get?_relocate]
  cases state.scope.get? name with
  | none => rfl
  | some x =>
    simp only [Option.map_some, Scope.erase_relocate, Variable.relocate]
    split <;> rfl

theorem execPop_relocate (name : Text) (first last : Position) (state : State σ) :
    execPop name (first.relocate r) (last.relocate r) (state.relocate r) =
      (execPop name first last state).relocate r := by
  simp only [execPop, State.relocate, Scope.get?_relocate]
  split
  next => rfl
  next value stack _ =>
    cases state.scope.get? name with
    | none => rfl
    | some x =>
      have hinsert := Scope.insert_relocate r state.scope name ⟨name, value.ty, last, some value⟩
      dsimp only [Variable.relocate] at hinsert
      simp only [Option.map_some, hinsert]
      rfl

theorem execDrop_relocate (name : Text) (first : Position) (state : State σ) :
    execDrop name (first.relocate r) (state.relocate r) = (execDrop name first state).relocate r := by
  simp only [execDrop, State.relocate, Scope.get?_relocate]
  cases state.scope.get? name with
  | none => rfl
  | some x =>
    simp only [Option.map_some, Scope.erase_relocate]
    rfl

theorem execVar_relocate (ty : Ty) (name : Text) (first last : Position) (state : State σ) :
    execVar ty name (first.relocate r) (last.relocate r) (state.relocate r) =
      (execVar ty name first last state).relocate r := by
  simp only [execVar, State.relocate, Scope.refusal?_relocate]
  cases state.scope.refusal? name with
  | some cause => rfl
  | none =>
    have hinsert := Scope.insert_relocate r state.scope name ⟨name, ty, last, none⟩
    dsimp only [Variable.relocate] at hinsert
    simp only [Option.map_none, hinsert]
    rfl

theorem execMove_relocate (name text : Text) (first last : Position) (state : State σ) :
    execMove name text (first.relocate r) (last.relocate r) (state.relocate r) =
      (execMove name text first last state).relocate r := by
  simp only [execMove, State.relocate, Scope.get?_relocate, Literal.read_relocate]
  cases state.scope.get? name with
  | none => rfl
  | some x =>
    simp only [Option.map_some]
    cases hread : Literal.read state.scope x.ty text with
    | error cause =>
      simp only [Variable.relocate, hread]
      exact fail_relocate_of_isLiteral r (Literal.isLiteral_of_read hread) state last
    | ok value =>
      have hinsert := Scope.insert_relocate r state.scope name { x with value? := some value }
      dsimp only [Variable.relocate] at hinsert
      simp only [Variable.relocate, hread, hinsert]
      rfl

theorem exec_relocate [Sink σ] (s : Statement) (first last : Position) (state : State σ) :
    s.exec (first.relocate r) (last.relocate r) (state.relocate r) =
      (s.exec first last state).relocate r := by
  cases s with
  | push operand =>
    match operand with
    | .literal ty text =>
      simp only [exec, scope_relocate, Literal.read_relocate]
      exact pushOr_relocate r (fun _ => Literal.isLiteral_of_read) state last
    | .name (some name) =>
      simp only [exec, scope_relocate, Scope.read_relocate]
      exact pushOr_relocate r (fun _ => Scope.isLiteral_of_read) state last
    | .name none => rfl
  | pushd operand =>
    match operand with
    | .literal ty text =>
      simp only [exec, scope_relocate, Literal.read_relocate]
      exact pushOr_relocate r (fun _ => Literal.isLiteral_of_read) state last
    | .name (some name) => exact execTake_relocate r name first last state
    | .name none => rfl
  | arith op => exact execArith_relocate r op first state
  | discard =>
    obtain ⟨stack, scope, sink⟩ := state
    cases stack <;> rfl
  | pop name? =>
    cases name? with
    | some name => exact execPop_relocate r name first last state
    | none =>
      obtain ⟨stack, scope, sink⟩ := state
      cases stack <;> rfl
  | drop name? =>
    cases name? with
    | some name => exact execDrop_relocate r name first state
    | none => rfl
  | var ty name => exact execVar_relocate r ty name first last state
  | move name text => exact execMove_relocate r name text first last state
  | print =>
    obtain ⟨stack, scope, sink⟩ := state
    cases stack with
    | nil => rfl
    | cons value stack => exact print_relocate r ⟨stack, scope, sink⟩ value
  | printVariable name =>
    simp only [exec, scope_relocate, Scope.read_relocate]
    cases h : state.scope.read name with
    | error cause => exact fail_relocate_of_isLiteral r (Scope.isLiteral_of_read h) state last
    | ok value => exact print_relocate r state value

end Statement

theorem State.finish_relocate (state : State σ) (position : Position) :
    (state.relocate r).finish (position.relocate r) = (state.finish position).relocate r := by
  simp only [finish, State.relocate, Scope.byLine_relocate]
  split
  · rfl
  · have hscope : state.scope.relocate r ≠ [] ↔ state.scope ≠ [] := by
      simp [Scope.relocate]
    simp only [hscope]
    split
    · rfl
    · rfl

theorem Block.exec_relocate [Sink σ] (block : Block) (state : State σ) :
    (block.relocate r).exec (state.relocate r) = (block.exec state).relocate r := by
  apply exec_map
  intro i state
  exact i.statement.exec_relocate r i.position i.position state

end Stackline
