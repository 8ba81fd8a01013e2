import Stackline.Proofs.Block
import Stackline.Proofs.Interpolation

/-!
Fragments of a program: a few instructions, executed in any state and with any tokens behind them.
The steps of a machine on a fragment are the execution of its instructions, so two fragments can be
compared by `Block.exec`. Main statement: `pushd` and `print` of a variable are what `push` followed
by `drop` or `print` is.
-/

namespace Stackline

variable {σ : Type} [Sink σ]

namespace Machine

/--
The outcome of the next steps, at most `count`.
-/
def outcome (machine : Machine σ) (count : Nat) : Outcome σ :=
  ⟨(machine.afterSteps (machine.steps count)).state, lastFault? (machine.steps count)⟩

/--
A running machine in front of the tokens of a block and of whatever follows.
-/
def facing (last : Position) (block : Block) (rest : List Token) (state : State σ) : Machine σ :=
  ⟨⟨last, block.tokens ++ rest⟩, state, true⟩

theorem outcome_succ_of_success {machine : Machine σ} (h : machine.running)
    (hsuccess : machine.step.2 = none) (count : Nat) :
    machine.outcome (count + 1) = machine.step.1.outcome count := by
  rw [outcome, steps_succ_of_running h, afterSteps_cons, lastFault?_cons_of_none hsuccess]
  rfl

theorem outcome_succ_of_fault {machine : Machine σ} {fault : Fault} (h : machine.running)
    (hfault : machine.step.2 = some fault) (count : Nat) :
    machine.outcome (count + 1) = ⟨machine.step.1.state, some fault⟩ := by
  rw [outcome, steps_succ_of_running h, steps_of_halted (running_step_of_fault hfault),
    afterSteps_cons, afterSteps_nil, hfault]
  rfl

omit [Sink σ] in
theorem facing_cons (last : Position) (i : Instruction) (block : Block) (rest : List Token)
    (state : State σ) :
    facing last (i :: block) rest state =
      ⟨⟨last, i.tokens ++ (block.tokens ++ rest)⟩, state, true⟩ := by
  rw [facing, Block.tokens, List.flatMap_cons, List.append_assoc]
  rfl

theorem outcome_facing {block : Block} {count : Nat} (h : count ≤ block.length) (last : Position)
    (rest : List Token) (state : State σ) :
    (facing last block rest state).outcome count = Block.exec (block.take count) state := by
  induction count generalizing block last state with
  | zero => rfl
  | succ count ih =>
    cases block with
    | nil =>
      rw [List.length_nil] at h
      omega
    | cons i block =>
      rw [facing_cons, List.take_succ_cons, Block.exec]
      cases hexec : (i.exec state).fault? with
      | none =>
        have hstep := step_of_success hexec last (Block.tokens block ++ rest)
        rw [outcome_succ_of_success rfl (by rw [hstep]), hstep, Outcome.andThen_of_none hexec]
        apply ih
        rw [List.length_cons] at h
        omega
      | some fault =>
        obtain ⟨cursor, hstep⟩ := step_of_fault hexec last (Block.tokens block ++ rest)
        rw [outcome_succ_of_fault rfl (by rw [hstep]), hstep, Outcome.andThen_of_some hexec,
          ← hexec]

/--
All instructions of a block are executed in as many steps, whatever follows.
-/
theorem outcome_facing_of_length {block : Block} {count : Nat} (h : block.length = count)
    (last : Position) (rest : List Token) (state : State σ) :
    (facing last block rest state).outcome count = block.exec state := by
  rw [outcome_facing (by omega), List.take_of_length_le (by omega)]

end Machine

/--
A name without a value is unknown or unassigned, and reading it says which.
-/
theorem Scope.read_of_value?_none {scope : Scope} {name : Text} (h : scope.value? name = none) :
    ∃ cause, ((scope.get? name = none ∧ cause = .unknownVariable name) ∨
        ((∃ x, scope.get? name = some x) ∧ cause = .unassigned name)) ∧
      scope.read name = .error cause := by
  unfold value? at h
  cases hx : scope.get? name with
  | none => exact ⟨_, .inl ⟨rfl, rfl⟩, read_of_get?_eq_none hx⟩
  | some x =>
    rw [hx, Option.bind_some] at h
    exact ⟨_, .inr ⟨⟨x, rfl⟩, rfl⟩, read_of_value?_eq_none hx h⟩

namespace Statement

section Value

variable {state : State σ} {name : Text} {value : Value} (h : state.scope.value? name = some value)
  (first last : Position)

include h

theorem exec_push_of_value? :
    exec (.push (.name (some name))) first last state =
      ⟨{ state with stack := value :: state.stack }, none⟩ := by
  rw [exec, Scope.read_eq_ok_iff.2 h]
  rfl

theorem exec_pushd_of_value? :
    exec (.pushd (.name (some name))) first last state =
      ⟨{ state with stack := value :: state.stack, scope := state.scope.erase name }, none⟩ := by
  obtain ⟨x, hx, hvalue⟩ := Option.bind_eq_some_iff.1 h
  simp only [exec, execTake, hx, hvalue]
  rfl

theorem exec_printVariable_of_value? :
    exec (.printVariable name) first last state = state.print value := by
  rw [exec, Scope.read_eq_ok_iff.2 h]

end Value

section Absent

variable {state : State σ} {name : Text} {cause : Cause} (h : state.scope.read name = .error cause)
  (position : Position)

include h

theorem fault?_push_of_read :
    (exec (.push (.name (some name))) position position state).fault? =
      some (.located position cause) := by
  rw [exec, h]
  rfl

/--
The variable is looked up apart from the other instructions, with the same result.
-/
theorem fault?_pushd_of_read :
    (exec (.pushd (.name (some name))) position position state).fault? =
      some (.located position cause) := by
  rw [exec, execTake]
  cases hx : state.scope.get? name with
  | none =>
    rw [Scope.read_of_get?_eq_none hx] at h
    cases h
    rfl
  | some x =>
    cases hvalue : x.value? with
    | none =>
      rw [Scope.read_of_value?_eq_none hx hvalue] at h
      cases h
      simp only [hvalue]
      rfl
    | some value =>
      rw [Scope.read_eq_ok_iff.2 (Option.bind_eq_some_iff.2 ⟨x, hx, hvalue⟩)] at h
      cases h

theorem fault?_printVariable_of_read :
    (exec (.printVariable name) position position state).fault? =
      some (.located position cause) := by
  rw [exec, h]
  rfl

end Absent

end Statement

namespace Block

theorem exec_singleton (i : Instruction) (state : State σ) : exec [i] state = i.exec state := by
  rw [exec]
  cases h : (i.exec state).fault? with
  | none => rw [Outcome.andThen_of_none h, exec, State.done, ← h]
  | some fault => rw [Outcome.andThen_of_some h]

section Value

variable {state : State σ} {name : Text} {value : Value} (h : state.scope.value? name = some value)
  (p q r : Position)

include h

theorem exec_push_cons (block : Block) :
    exec (⟨p, .push (.name (some name))⟩ :: block) state =
      exec block { state with stack := value :: state.stack } := by
  rw [exec, Instruction.exec, Statement.exec_push_of_value? h, Outcome.mk_none_andThen]

theorem exec_push_drop :
    exec [⟨p, .push (.name (some name))⟩, ⟨q, .drop (some name)⟩] state =
      exec [⟨r, .pushd (.name (some name))⟩] state := by
  obtain ⟨x, hx, -⟩ := Option.bind_eq_some_iff.1 h
  rw [exec_push_cons h, exec_singleton, exec_singleton, Instruction.exec, Instruction.exec,
    Statement.exec_pushd_of_value? h]
  simp only [Statement.exec, Statement.execDrop, hx]
  rfl

theorem exec_push_print :
    exec [⟨p, .push (.name (some name))⟩, ⟨q, .print⟩] state =
      exec [⟨r, .printVariable name⟩] state := by
  -- the value is printed off the stack on which it was just put
  rw [exec_push_cons h, exec_singleton, exec_singleton, Instruction.exec, Instruction.exec,
    Statement.exec_printVariable_of_value? h]
  rfl

end Value

end Block

/--
Whatever the state and whatever follows, `pushd` of a variable that has a value is `push` and then
`drop`, and `print` of it is `push` and then `print`, also if the sink refuses a part of the line.
If the variable has no value, all three instructions fail for the same cause.
-/
theorem shortcuts_agree_with_expansions (state : State σ) (name : Text) (last : Position)
    (rest : List Token) (p q r : Position) :
    let after := fun block : Block => (Machine.facing last block rest state).outcome block.length
    let push : Instruction := ⟨p, .push (.name (some name))⟩
    let pushd : Instruction := ⟨r, .pushd (.name (some name))⟩
    let print : Instruction := ⟨r, .printVariable name⟩
    (∀ value, state.scope.value? name = some value →
      after [push, ⟨q, .drop (some name)⟩] = after [pushd] ∧ (after [pushd]).fault? = none ∧
      after [push, ⟨q, .print⟩] = after [print] ∧
      after [print] = state.print value) ∧
    (state.scope.value? name = none → ∃ cause,
      ((state.scope.get? name = none ∧ cause = .unknownVariable name) ∨
        ((∃ x, state.scope.get? name = some x) ∧ cause = .unassigned name)) ∧
      (after [push]).fault? = some (.located p cause) ∧
      (after [pushd]).fault? = some (.located r cause) ∧
      (after [print]).fault? = some (.located r cause)) := by
  intro after push pushd print
  have hafter : ∀ block : Block, after block = block.exec state := by
    intro block
    apply Machine.outcome_facing_of_length rfl
  simp only [hafter]
  constructor
  · intro value hvalue
    refine ⟨?_, ?_, ?_, ?_⟩
    · apply Block.exec_push_drop hvalue
    · rw [Block.exec_singleton, Instruction.exec, Statement.exec_pushd_of_value? hvalue]
    · apply Block.exec_push_print hvalue
    · rw [Block.exec_singleton]
      apply Statement.exec_printVariable_of_value? hvalue
  · intro hnone
    obtain ⟨cause, hcause, hread⟩ := Scope.read_of_value?_none hnone
    refine ⟨cause, hcause, ?_, ?_, ?_⟩
    · rw [Block.exec_singleton]
      apply Statement.fault?_push_of_read hread
    · rw [Block.exec_singleton]
      apply Statement.fault?_pushd_of_read hread
    · rw [Block.exec_singleton]
      apply Statement.fault?_printVariable_of_read hread

theorem shortcuts_agree_with_expansions_refused :
    let x : Variable := ⟨['x'], .string, ⟨1, ⟨0, 12⟩⟩, some (.str ['a', 'b'])⟩
    let state : State Store := ⟨[.int 7], [(['x'], x)], Store.empty (some 2)⟩
    let p : Position := ⟨3, ⟨24, 7⟩⟩
    let after := fun block : Block => (Machine.facing p block [] state).outcome block.length
    after [⟨p, .push (.name (some ['x']))⟩, ⟨p, .print⟩] =
        ⟨{ state with sink := ⟨#[97, 98], some 2⟩ }, some .output⟩ ∧
      after [⟨p, .push (.name (some ['x']))⟩, ⟨p, .drop (some ['x'])⟩] =
        ⟨⟨[.str ['a', 'b'], .int 7], [], Store.empty (some 2)⟩, none⟩ ∧
      (after [⟨p, .pushd (.name (some ['y']))⟩]).fault? =
        some (.located p (.unknownVariable ['y'])) := by
  intro x state p after
  obtain ⟨hx, -⟩ := shortcuts_agree_with_expansions state ['x'] p [] p p p
  obtain ⟨hdrop, -, hprint, hprinted⟩ := hx (.str ['a', 'b']) rfl
  refine ⟨?_, ?_, ?_⟩
  · exact hprint.trans hprinted
  · exact hdrop
  · obtain ⟨-, hy⟩ := shortcuts_agree_with_expansions state ['y'] p [] p p p
    obtain ⟨cause, ⟨-, rfl⟩ | ⟨⟨y, hget⟩, -⟩, -, hpushd, -⟩ := hy rfl
    · exact hpushd
    · cases hget

end Stackline
