import Stackline.Proofs.Block
import Stackline.Proofs.Statement.Effect

/-!
What statements print. A statement either writes the line of one value, or it does not touch the
sink; which of the two, and all else that it does, does not depend on the sink. So execution
commutes with each map of sinks that writing follows. What was written to a store stays.
-/

namespace Stackline

variable {σ τ : Type} [Sink σ] [Sink τ]

def State.withSink (state : State σ) (sink : τ) : State τ :=
  ⟨state.stack, state.scope, sink⟩

def Outcome.withSink (outcome : Outcome σ) (sink : τ) : Outcome τ :=
  ⟨outcome.state.withSink sink, outcome.fault?⟩

/--
The state with what `f` makes of its sink.
-/
def State.mapSink (f : σ → τ) (state : State σ) : State τ :=
  state.withSink (f state.sink)

/--
Writing to the sinks that `f` yields comes to what writing to those that it is given comes to.
-/
def Sink.Follows (f : σ → τ) : Prop :=
  ∀ (sink : σ) (bytes : List UInt8),
    write (f sink) bytes = (f (write sink bytes).1, (write sink bytes).2)

namespace Statement

/--
The value that a statement is about to print, if it is.
-/
def printed? : Statement → State σ → Option Value
  | .print, state => state.stack.head?
  | .printVariable name, state => (state.scope.read name).toOption
  | _, _ => none

/--
The state in which the value is written: one that is printed off the stack has left it.
-/
def taken : Statement → State σ → State σ
  | .print, state => { state with stack := state.stack.tail }
  | _, state => state

omit [Sink σ] in
theorem sink_taken (s : Statement) (state : State σ) : (s.taken state).sink = state.sink := by
  cases s <;> rfl

theorem exec_of_printed? {s : Statement} {state : State σ} {value : Value}
    (h : s.printed? state = some value) (first last : Position) :
    s.exec first last state = (s.taken state).print value := by
  cases s with
  | print =>
    obtain ⟨stack, scope, sink⟩ := state
    obtain ⟨stack, rfl⟩ := List.head?_eq_some_iff.1 h
    rfl
  | printVariable name =>
    simp only [exec, Result.toOption_eq_some_iff.1 h]
    rfl
  | _ => cases h

omit [Sink σ] in
theorem mnemonic_of_printed? {s : Statement} {state : State σ} {value : Value}
    (h : s.printed? state = some value) : s.mnemonic = .print := by
  cases s with
  | print | printVariable name => rfl
  | _ => cases h

theorem fault?_exec_of_printed?_eq_none {s : Statement} {state : State σ}
    (hm : s.mnemonic = .print) (h : s.printed? state = none) (first last : Position) :
    (s.exec first last state).fault? ≠ none := by
  cases s with
  | print =>
    rw [printed?, List.head?_eq_none_iff] at h
    simp [exec, h, State.fail]
  | printVariable name =>
    obtain ⟨cause, hread⟩ := Result.toOption_eq_none_iff.1 h
    simp [exec, hread, State.fail]
  | _ => cases hm

omit [Sink σ] [Sink τ] in
theorem printed?_withSink (s : Statement) (state : State σ) (sink : τ) :
    s.printed? (state.withSink sink) = s.printed? state := by
  cases s <;> rfl

omit [Sink σ] [Sink τ] in
theorem taken_withSink (s : Statement) (state : State σ) (sink : τ) :
    s.taken (state.withSink sink) = (s.taken state).withSink sink := by
  cases s <;> rfl

theorem exec_withSink {s : Statement} {state : State σ} (h : s.printed? state = none)
    (first last : Position) (sink : τ) :
    s.exec first last (state.withSink sink) = (s.exec first last state).withSink sink := by
  obtain ⟨stack, scope, old⟩ := state
  cases s with
  | push operand =>
    cases operand with
    | literal ty text =>
      simp only [exec, State.withSink]
      cases Literal.read scope ty text <;> rfl
    | name name? =>
      cases name? with
      | none => rfl
      | some name =>
        simp only [exec, State.withSink]
        cases scope.read name <;> rfl
  | pushd operand =>
    cases operand with
    | literal ty text =>
      simp only [exec, State.withSink]
      cases Literal.read scope ty text <;> rfl
    | name name? =>
      cases name? with
      | none => rfl
      | some name =>
        simp only [exec, execTake, State.withSink]
        cases scope.get? name with
        | none => rfl
        | some x =>
          dsimp only
          cases x.value? <;> rfl
  | arith op =>
    rcases stack with _ | ⟨a, _ | ⟨b, stack⟩⟩
    · rfl
    · rfl
    · simp only [exec, execArith, State.withSink]
      split
      · rfl
      · cases op.apply a b <;> rfl
  | discard => cases stack <;> rfl
  | pop name? =>
    cases stack with
    | nil => cases name? <;> rfl
    | cons value stack =>
      cases name? with
      | none => rfl
      | some name =>
        simp only [exec, execPop, State.withSink]
        cases scope.get? name <;> rfl
  | drop name? =>
    cases name? with
    | none => rfl
    | some name =>
      simp only [exec, execDrop, State.withSink]
      cases scope.get? name <;> rfl
  | var ty name =>
    simp only [exec, execVar, State.withSink]
    cases scope.refusal? name <;> rfl
  | move name text =>
    simp only [exec, execMove, State.withSink]
    cases scope.get? name with
    | none => rfl
    | some x =>
      dsimp only
      cases Literal.read scope x.ty text <;> rfl
  | print =>
    cases stack with
    | nil => rfl
    | cons value stack => cases h
  | printVariable name =>
    obtain ⟨cause, hread⟩ := Result.toOption_eq_none_iff.1 h
    simp only [exec, State.withSink, hread]
    rfl

theorem sink_exec_of_printed?_eq_none {s : Statement} {state : State σ} (h : s.printed? state = none)
    (first last : Position) : (s.exec first last state).state.sink = state.sink := by
  have hexec := exec_withSink h first last state.sink
  exact congrArg (fun outcome => outcome.state.sink) hexec

end Statement

omit [Sink σ] [Sink τ] in
theorem State.finish_mapSink (f : σ → τ) (state : State σ) (position : Position) :
    (state.mapSink f).finish position = (state.finish position).map (mapSink f) id := by
  obtain ⟨stack, scope, sink⟩ := state
  cases stack with
  | cons value stack => rfl
  | nil => cases scope <;> rfl

section Follows

variable {f : σ → τ} (h : Sink.Follows f)

include h

theorem State.print_mapSink (state : State σ) (value : Value) :
    (state.mapSink f).print value = (state.print value).map (mapSink f) id := by
  have hwrite := h state.sink (Text.utf8 (value.display ++ ['\n']))
  simp only [print, mapSink, withSink, Outcome.map, hwrite, Option.map_id_fun, id_eq]

/--
No statement looks at the sink, so one sink may stand for another that is written to alike.
-/
theorem Statement.exec_mapSink (s : Statement) (first last : Position) (state : State σ) :
    s.exec first last (state.mapSink f) =
      (s.exec first last state).map (State.mapSink f) id := by
  cases hprinted : s.printed? state with
  | none =>
    have hsink := sink_exec_of_printed?_eq_none hprinted first last
    rw [State.mapSink, exec_withSink hprinted, Outcome.map, State.mapSink, hsink, Option.map_id]
    rfl
  | some value =>
    have hmapped : s.printed? (state.mapSink f) = some value := by
      rw [State.mapSink, printed?_withSink, hprinted]
    have htaken : s.taken (state.mapSink f) = (s.taken state).mapSink f := by
      rw [State.mapSink, taken_withSink, State.mapSink, sink_taken]
    rw [exec_of_printed? hmapped, exec_of_printed? hprinted, htaken]
    exact State.print_mapSink h (s.taken state) value

end Follows

section Invariant

variable {P : σ → Prop}
  (hwrite : ∀ (sink : σ) (bytes : List UInt8), P sink → P (Sink.write sink bytes).1)

include hwrite

theorem Block.sink_exec_invariant (block : Block) {state : State σ} (h : P state.sink) :
    P (block.exec state).state.sink := by
  apply exec_invariant (P := fun state => P state.sink)
  · exact Statement.sink_exec_invariant hwrite
  · exact h

theorem Machine.sink_steps_invariant {machine : Machine σ} (h : P machine.state.sink) (count : Nat) :
    P (machine.afterSteps (machine.steps count)).state.sink := by
  apply steps_invariant (P := fun state => P state.sink)
  · exact Statement.sink_exec_invariant hwrite
  · exact h

end Invariant

theorem Store.limit?_write_of_eq {limit? : Option Nat} (store : Store) (bytes : List UInt8)
    (h : store.limit? = limit?) : (Sink.write store bytes).1.limit? = limit? := by
  rw [limit?_write, h]

theorem Store.written_prefix_write {bytes : List UInt8} (store : Store)
    (more : List UInt8) (h : bytes <+: store.written.toList) :
    bytes <+: (Sink.write store more).1.written.toList := by
  apply h.trans
  rw [toList_written_write]
  apply List.prefix_append

theorem Block.limit?_exec (block : Block) (state : State Store) :
    (block.exec state).state.sink.limit? = state.sink.limit? :=
  block.sink_exec_invariant Store.limit?_write_of_eq rfl

theorem Block.written_prefix_exec (block : Block) (state : State Store) :
    state.sink.written.toList <+: (block.exec state).state.sink.written.toList :=
  block.sink_exec_invariant Store.written_prefix_write (List.prefix_refl _)

namespace Machine

theorem limit?_afterSteps (machine : Machine Store) (count : Nat) :
    (machine.afterSteps (machine.steps count)).state.sink.limit? = machine.state.sink.limit? :=
  sink_steps_invariant Store.limit?_write_of_eq rfl count

theorem written_prefix_afterSteps (machine : Machine Store) (count : Nat) :
    machine.state.sink.written.toList <+:
      (machine.afterSteps (machine.steps count)).state.sink.written.toList :=
  sink_steps_invariant Store.written_prefix_write (List.prefix_refl _) count

theorem written_prefix_of_le (machine : Machine Store) {count more : Nat} (h : count ≤ more) :
    (machine.afterSteps (machine.steps count)).state.sink.written.toList <+:
      (machine.afterSteps (machine.steps more)).state.sink.written.toList := by
  obtain ⟨rest, rfl⟩ := Nat.exists_eq_add_of_le h
  rw [steps_add, afterSteps_append]
  apply written_prefix_afterSteps

end Machine
end Stackline
