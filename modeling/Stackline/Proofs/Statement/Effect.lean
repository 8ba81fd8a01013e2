import Stackline.Proofs.Faults

/-!
What statements do, as rules: `Effect` for a statement that nothing stops, `Residue` for the state
that one leaves behind at which a fault stopped. All that is said about executions elsewhere goes
through `effect_of_exec`, `residue_of_exec` and `standsAt_of_exec`.
-/

namespace Stackline

variable {σ : Type} [Sink σ]

def Value.printed (value : Value) : List UInt8 :=
  Text.utf8 (value.display ++ ['\n'])

theorem State.print_of_write {state : State σ} {value : Value} {sink : σ} {complete : Bool}
    (h : Sink.write state.sink value.printed = (sink, complete)) :
    state.print value = ⟨{ state with sink }, if complete then none else some .output⟩ := by
  unfold Value.printed at h
  simp only [print, h]

namespace Fault

/--
If the fault is one of the program, it stands at one of two positions.
-/
def StandsAt (first last : Position) (fault : Fault) : Prop :=
  ∀ position, fault.position? = some position → position = first ∨ position = last

theorem standsAt_first (first last : Position) (cause : Cause) :
    (located first cause).StandsAt first last := by
  intro position h
  cases h
  exact .inl rfl

theorem standsAt_last (first last : Position) (cause : Cause) :
    (located last cause).StandsAt first last := by
  intro position h
  cases h
  exact .inr rfl

end Fault

namespace Statement

/--
The effect of a statement whose last token has the position `last`.
-/
inductive Effect (last : Position) : Statement → State σ → State σ → Prop where
  | pushLiteral {ty text value state} (h : Literal.read state.scope ty text = .ok value) :
    Effect last (.push (.literal ty text)) state { state with stack := value :: state.stack }
  | pushdLiteral {ty text value state} (h : Literal.read state.scope ty text = .ok value) :
    Effect last (.pushd (.literal ty text)) state { state with stack := value :: state.stack }
  | pushName {name value state} (h : state.scope.read name = .ok value) :
    Effect last (.push (.name (some name))) state { state with stack := value :: state.stack }
  | pushdName {name x value state} (hx : state.scope.get? name = some x)
    (hvalue : x.value? = some value) :
    Effect last (.pushd (.name (some name))) state
      { state with stack := value :: state.stack, scope := state.scope.erase name }
  | arith {op a b value stack scope sink} (hbool : (a.isBool || b.isBool) = false)
    (h : op.apply a b = .ok value) :
    Effect last (.arith op) ⟨a :: b :: stack, scope, sink⟩ ⟨value :: stack, scope, sink⟩
  | discard {value stack scope sink} :
    Effect last .discard ⟨value :: stack, scope, sink⟩ ⟨stack, scope, sink⟩
  | pop {name x value stack scope sink} (hx : Scope.get? scope name = some x) :
    Effect last (.pop (some name)) ⟨value :: stack, scope, sink⟩
      ⟨stack, Scope.insert scope name ⟨name, value.ty, last, some value⟩, sink⟩
  | drop {name x state} (hx : state.scope.get? name = some x) :
    Effect last (.drop (some name)) state { state with scope := state.scope.erase name }
  | var {ty name state} (h : state.scope.refusal? name = none) :
    Effect last (.var ty name) state
      { state with scope := state.scope.insert name ⟨name, ty, last, none⟩ }
  | move {name text x value state} (hx : state.scope.get? name = some x)
    (h : Literal.read state.scope x.ty text = .ok value) :
    Effect last (.move name text) state
      { state with scope := state.scope.insert name { x with value? := some value } }
  | print {value stack scope sink sink'} (h : Sink.write sink value.printed = (sink', true)) :
    Effect last .print ⟨value :: stack, scope, sink⟩ ⟨stack, scope, sink'⟩
  | printVariable {name value state sink'} (h : state.scope.read name = .ok value)
    (hwrite : Sink.write state.sink value.printed = (sink', true)) :
    Effect last (.printVariable name) state { state with sink := sink' }

/--
What is left of a state behind a statement that a fault stopped.
-/
inductive Residue : Statement → State σ → State σ → Prop where
  | unchanged {s state} : Residue s state state
  | pushdName {name x state} (hx : state.scope.get? name = some x) (hvalue : x.value? = none) :
    Residue (.pushd (.name (some name))) state { state with scope := state.scope.erase name }
  | arith {op a b stack scope sink}
    (h : (a.isBool || b.isBool) = true ∨ ∃ error, op.apply a b = .error error) :
    Residue (.arith op) ⟨a :: b :: stack, scope, sink⟩ ⟨stack, scope, sink⟩
  | print {value stack scope sink sink'} (h : Sink.write sink value.printed = (sink', false)) :
    Residue .print ⟨value :: stack, scope, sink⟩ ⟨stack, scope, sink'⟩
  | printVariable {name value state sink'} (h : state.scope.read name = .ok value)
    (hwrite : Sink.write state.sink value.printed = (sink', false)) :
    Residue (.printVariable name) state { state with sink := sink' }

/--
A statement has its effect, or it is stopped by a fault at one of its tokens and leaves a residue.
-/
inductive Executes (first last : Position) (s : Statement) (state : State σ) : Outcome σ → Prop where
  | success {state'} (h : Effect last s state state') :
    Executes first last s state ⟨state', none⟩
  | failure {state' fault} (h : Residue s state state') (hfault : Fault.isExecution fault)
    (hposition : fault.StandsAt first last) : Executes first last s state ⟨state', some fault⟩

namespace Executes

variable {s : Statement} {state : State σ} {first last : Position}

theorem of_fail_first {cause : Cause} (h : cause.isExecution) :
    Executes first last s state (state.fail first cause) :=
  .failure .unchanged h (Fault.standsAt_first first last cause)

theorem of_fail_last {cause : Cause} (h : cause.isLiteral) :
    Executes first last s state (state.fail last cause) :=
  .failure .unchanged (Cause.isExecution_of_isLiteral h) (Fault.standsAt_last first last cause)

theorem of_pushOr {result : Except Cause Value}
    (h : ∀ value, result = .ok value →
      Effect last s state { state with stack := value :: state.stack })
    (hcause : ∀ cause, result = .error cause → cause.isLiteral) :
    Executes first last s state (state.pushOr last result) := by
  cases result with
  | ok value => exact .success (h value rfl)
  | error cause => exact of_fail_last (hcause cause rfl)

theorem of_print {start : State σ} {value : Value}
    (hsuccess : ∀ sink, Sink.write state.sink value.printed = (sink, true) →
      Effect last s start { state with sink })
    (hfailure : ∀ sink, Sink.write state.sink value.printed = (sink, false) →
      Residue s start { state with sink }) :
    Executes first last s start (state.print value) := by
  cases hwrite : Sink.write state.sink value.printed with
  | mk sink complete =>
    rw [State.print_of_write hwrite]
    cases complete with
    | true => exact .success (hsuccess sink hwrite)
    | false => exact .failure (hfailure sink hwrite) rfl nofun

end Executes

section Cases

variable (first last : Position) (state : State σ)

theorem executes_arith (op : Operator) :
    Executes first last (.arith op) state (execArith op first state) := by
  obtain ⟨stack, scope, sink⟩ := state
  match stack with
  | [] => exact .of_fail_first rfl
  | [a] => exact .of_fail_first rfl
  | a :: b :: stack =>
    simp only [execArith]
    cases hbool : a.isBool || b.isBool with
    | true => exact .failure (.arith (.inl hbool)) rfl (Fault.standsAt_first first last _)
    | false =>
      rw [if_neg (by simp)]
      cases hvalue : op.apply a b with
      | ok value => exact .success (.arith hbool hvalue)
      | error error =>
        exact .failure (.arith (.inr ⟨error, hvalue⟩)) rfl (Fault.standsAt_first first last _)

theorem executes_take (name : Text) :
    Executes first last (.pushd (.name (some name))) state (execTake name first last state) := by
  cases hx : state.scope.get? name with
  | none =>
    simp only [execTake, hx]
    exact .of_fail_first rfl
  | some x =>
    simp only [execTake, hx]
    cases hvalue : x.value? with
    | none => exact .failure (.pushdName hx hvalue) rfl (Fault.standsAt_last first last _)
    | some value => exact .success (.pushdName hx hvalue)

theorem executes_pop (name : Text) :
    Executes first last (.pop (some name)) state (execPop name first last state) := by
  obtain ⟨stack, scope, sink⟩ := state
  cases stack with
  | nil => exact .of_fail_first rfl
  | cons value stack =>
    simp only [execPop]
    cases hx : scope.get? name with
    | none => exact .of_fail_first rfl
    | some x => exact .success (.pop hx)

theorem executes_drop (name : Text) :
    Executes first last (.drop (some name)) state (execDrop name first state) := by
  unfold execDrop
  cases hx : state.scope.get? name with
  | none => exact .of_fail_first rfl
  | some x => exact .success (.drop hx)

theorem executes_var (ty : Ty) (name : Text) :
    Executes first last (.var ty name) state (execVar ty name first last state) := by
  unfold execVar
  cases h : state.scope.refusal? name with
  | some cause => exact .of_fail_first (Scope.isExecution_of_refusal? h)
  | none => exact .success (.var h)

theorem executes_move (name text : Text) :
    Executes first last (.move name text) state (execMove name text first last state) := by
  cases hx : state.scope.get? name with
  | none =>
    simp only [execMove, hx]
    exact .of_fail_first rfl
  | some x =>
    simp only [execMove, hx]
    cases h : Literal.read state.scope x.ty text with
    | error cause => exact .of_fail_last (Literal.isLiteral_of_read h)
    | ok value => exact .success (.move hx h)

theorem executes_exec (s : Statement) : Executes first last s state (s.exec first last state) := by
  cases s with
  | push operand =>
    match operand with
    | .literal ty text => exact .of_pushOr (fun value => .pushLiteral) fun _ => Literal.isLiteral_of_read
    | .name (some name) => exact .of_pushOr (fun value => .pushName) fun _ => Scope.isLiteral_of_read
    | .name none => exact .of_fail_first rfl
  | pushd operand =>
    match operand with
    | .literal ty text => exact .of_pushOr (fun value => .pushdLiteral) fun _ => Literal.isLiteral_of_read
    | .name (some name) => exact executes_take first last state name
    | .name none => exact .of_fail_first rfl
  | arith op => exact executes_arith first last state op
  | discard =>
    obtain ⟨stack, scope, sink⟩ := state
    cases stack with
    | nil => exact .of_fail_first rfl
    | cons value stack => exact .success .discard
  | pop name? =>
    cases name? with
    | some name => exact executes_pop first last state name
    | none =>
      simp only [exec]
      split
      · exact .of_fail_first rfl
      · exact .of_fail_first rfl
  | drop name? =>
    cases name? with
    | some name => exact executes_drop first last state name
    | none => exact .of_fail_first rfl
  | var ty name => exact executes_var first last state ty name
  | move name text => exact executes_move first last state name text
  | print =>
    obtain ⟨stack, scope, sink⟩ := state
    cases stack with
    | nil => exact .of_fail_first rfl
    | cons value stack => exact .of_print (fun sink => .print) fun sink => .print
  | printVariable name =>
    simp only [exec]
    cases h : state.scope.read name with
    | error cause => exact .of_fail_last (Scope.isLiteral_of_read h)
    | ok value => exact .of_print (fun sink => .printVariable h) fun sink => .printVariable h

end Cases

theorem effect_of_exec {s : Statement} {first last : Position} {state : State σ}
    (h : (s.exec first last state).fault? = none) :
    Effect last s state (s.exec first last state).state := by
  have hexec := executes_exec first last state s
  cases heq : s.exec first last state with
  | mk state' fault? =>
    rw [heq] at hexec h
    cases hexec with
    | success heffect => exact heffect
    | failure => cases h

theorem failure_of_exec {s : Statement} {first last : Position} {state : State σ} {fault : Fault}
    (h : (s.exec first last state).fault? = some fault) :
    Residue s state (s.exec first last state).state ∧ fault.isExecution ∧
      fault.StandsAt first last := by
  have hexec := executes_exec first last state s
  cases heq : s.exec first last state with
  | mk state' fault? =>
    rw [heq] at hexec h
    cases hexec with
    | success => cases h
    | failure hresidue hfault hposition =>
      cases h
      exact ⟨hresidue, hfault, hposition⟩

theorem residue_of_exec {s : Statement} {first last : Position} {state : State σ} {fault : Fault}
    (h : (s.exec first last state).fault? = some fault) :
    Residue s state (s.exec first last state).state ∧ fault.isExecution :=
  ⟨(failure_of_exec h).1, (failure_of_exec h).2.1⟩

theorem standsAt_of_exec {s : Statement} {first last : Position} {state : State σ} {fault : Fault}
    (h : (s.exec first last state).fault? = some fault) : fault.StandsAt first last :=
  (failure_of_exec h).2.2

theorem sink_exec_cases (s : Statement) (first last : Position) (state : State σ) :
    (s.exec first last state).state.sink = state.sink ∨
      ∃ bytes, (s.exec first last state).state.sink = (Sink.write state.sink bytes).1 := by
  cases hfault : (s.exec first last state).fault? with
  | none =>
    have heffect := effect_of_exec hfault
    generalize (s.exec first last state).state = state' at heffect
    cases heffect with
    | print hwrite => exact .inr ⟨_, by rw [hwrite]⟩
    | printVariable h hwrite => exact .inr ⟨_, by rw [hwrite]⟩
    | _ => exact .inl rfl
  | some fault =>
    have hresidue := (residue_of_exec hfault).1
    generalize (s.exec first last state).state = state' at hresidue
    cases hresidue with
    | print hwrite => exact .inr ⟨_, by rw [hwrite]⟩
    | printVariable h hwrite => exact .inr ⟨_, by rw [hwrite]⟩
    | _ => exact .inl rfl

theorem sink_exec_invariant {P : σ → Prop}
    (hwrite : ∀ (sink : σ) (bytes : List UInt8), P sink → P (Sink.write sink bytes).1)
    (s : Statement) (first last : Position) (state : State σ) (h : P state.sink) :
    P (s.exec first last state).state.sink := by
  rcases s.sink_exec_cases first last state with heq | ⟨bytes, heq⟩
  · rw [heq]
    exact h
  · rw [heq]
    exact hwrite state.sink bytes h

end Statement
end Stackline
