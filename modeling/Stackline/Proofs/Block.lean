import Stackline.Proofs.Machine.Steps

/-!
Blocks of instructions. The machine takes its tokens one by one, but on the tokens of a block it
does what executing the statements of the block in turn does. Main statements: `step_of_success` and
`step_of_fault` for one instruction, `evaluate_onBlock` for a whole block and its end.
-/

namespace Stackline

variable {σ τ : Type}

namespace Outcome

/--
Go on from an outcome, unless a fault stopped the program there.
-/
def andThen (outcome : Outcome σ) (next : State σ → Outcome σ) : Outcome σ :=
  match outcome.fault? with
  | none => next outcome.state
  | some _ => outcome

theorem andThen_of_none {outcome : Outcome σ} (h : outcome.fault? = none)
    (next : State σ → Outcome σ) : outcome.andThen next = next outcome.state := by
  simp [andThen, h]

@[simp]
theorem mk_none_andThen (state : State σ) (next : State σ → Outcome σ) :
    (⟨state, none⟩ : Outcome σ).andThen next = next state := rfl

theorem andThen_of_some {outcome : Outcome σ} {fault : Fault} (h : outcome.fault? = some fault)
    (next : State σ → Outcome σ) : outcome.andThen next = outcome := by
  simp [andThen, h]

theorem andThen_assoc (outcome : Outcome σ) (f g : State σ → Outcome σ) :
    (outcome.andThen f).andThen g = outcome.andThen fun state => (f state).andThen g := by
  cases h : outcome.fault? with
  | none => simp only [andThen_of_none h]
  | some fault => simp only [andThen_of_some h]

theorem fault?_andThen_eq_none_iff {outcome : Outcome σ} {next : State σ → Outcome σ} :
    (outcome.andThen next).fault? = none ↔
      outcome.fault? = none ∧ (next outcome.state).fault? = none := by
  cases h : outcome.fault? with
  | none => simp [andThen_of_none h]
  | some fault => simp [andThen_of_some h, h]

/--
An outcome whose state and whose fault are told in another way.
-/
def map (f : State σ → State τ) (g : Fault → Fault) (outcome : Outcome σ) : Outcome τ :=
  ⟨f outcome.state, outcome.fault?.map g⟩

@[simp]
theorem fault?_map (f : State σ → State τ) (g : Fault → Fault) (outcome : Outcome σ) :
    (outcome.map f g).fault? = outcome.fault?.map g := rfl

theorem andThen_map {f : State σ → State τ} {g : Fault → Fault} {next : State σ → Outcome σ}
    {next' : State τ → Outcome τ} (h : ∀ state, next' (f state) = (next state).map f g)
    (outcome : Outcome σ) : (outcome.map f g).andThen next' = (outcome.andThen next).map f g := by
  cases hfault : outcome.fault? with
  | none =>
    have hmap : (outcome.map f g).fault? = none := by
      rw [fault?_map, hfault]
      rfl
    rw [andThen_of_none hfault, andThen_of_none hmap]
    exact h outcome.state
  | some fault =>
    have hmap : (outcome.map f g).fault? = some (g fault) := by
      rw [fault?_map, hfault]
      rfl
    rw [andThen_of_some hfault, andThen_of_some hmap]

end Outcome

variable [Sink σ] [Sink τ]

/--
A statement at the position of the line that it was read from.
-/
structure Instruction where
  position : Position
  statement : Statement
  deriving Repr, DecidableEq

namespace Instruction

def tokens (i : Instruction) : List Token :=
  i.statement.tokens i.position

def exec (i : Instruction) (state : State σ) : Outcome σ :=
  i.statement.exec i.position i.position state

end Instruction

abbrev Block := List Instruction

namespace Block

def tokens (block : Block) : List Token :=
  block.flatMap Instruction.tokens

/--
Execute the instructions of a block in turn, up to the first fault.
-/
def exec : Block → State σ → Outcome σ
  | [], state => state.done
  | i :: block, state => (i.exec state).andThen (exec block)

theorem exec_append (b c : Block) (state : State σ) :
    exec (b ++ c) state = (exec b state).andThen (exec c) := by
  induction b generalizing state with
  | nil => rfl
  | cons i b ih =>
    simp only [List.cons_append, exec]
    rw [Outcome.andThen_assoc]
    congr 1
    funext state
    exact ih state

/--
What is true of each instruction told in another way is true of a block of them.
-/
theorem exec_map {f : State σ → State τ} {g : Fault → Fault} {k : Instruction → Instruction}
    (h : ∀ i state, (k i).exec (f state) = (i.exec state).map f g) (block : Block)
    (state : State σ) : exec (block.map k) (f state) = (exec block state).map f g := by
  induction block generalizing state with
  | nil => rfl
  | cons i block ih =>
    rw [List.map_cons, exec, exec, h]
    exact Outcome.andThen_map ih (i.exec state)

theorem exec_cons_of_success {i : Instruction} {state : State σ} (h : (i.exec state).fault? = none)
    (block : Block) : exec (i :: block) state = exec block (i.exec state).state := by
  rw [exec, Outcome.andThen_of_none h]

theorem exec_invariant_of_mem {P : State σ → Prop} {block : Block}
    (hexec : ∀ i ∈ block, ∀ state, P state → P (i.exec state).state) {state : State σ}
    (h : P state) : P (block.exec state).state := by
  induction block generalizing state with
  | nil => exact h
  | cons i block ih =>
    rw [List.forall_mem_cons] at hexec
    have hi : P (i.exec state).state := hexec.1 state h
    cases hfault : (i.exec state).fault? with
    | none =>
      rw [exec_cons_of_success hfault]
      exact ih hexec.2 hi
    | some fault =>
      rw [exec, Outcome.andThen_of_some hfault]
      exact hi

theorem exec_invariant {P : State σ → Prop}
    (hexec : ∀ (s : Statement) (first last : Position) (state : State σ),
      P state → P (s.exec first last state).state)
    (block : Block) {state : State σ} (h : P state) : P (block.exec state).state := by
  apply exec_invariant_of_mem _ h
  intro i hi
  apply hexec

theorem length_le_length_tokens (block : Block) : block.length ≤ block.tokens.length := by
  induction block with
  | nil => simp
  | cons i block ih =>
    obtain ⟨first, behind, htokens, -⟩ := Statement.decode_tokens i.statement i.position []
    simp only [tokens, List.flatMap_cons, Instruction.tokens, htokens, List.length_append,
      List.length_cons] at ih ⊢
    omega

end Block

theorem Statement.exec_of_underflow {s : Statement} (hm : s.mnemonic = .pop) {state : State σ}
    (h : state.stack = []) (first last : Position) :
    s.exec first last state = state.fail first (.stackUnderflow .pop) := by
  cases s with
  | discard => simp [exec, h]
  | pop name? =>
    cases name? with
    | none => simp [exec, h]
    | some name => simp [exec, execPop, h]
  | _ => cases hm

namespace Machine

/--
The machine in front of the tokens of a block and a token that closes the program.
-/
def onBlock (last : Position) (block : Block) (closing : Token) (state : State σ) : Machine σ :=
  ⟨⟨last, block.tokens ++ [closing]⟩, state, true⟩

theorem execute_tokens (i : Instruction) (rest : List Token) (state : State σ) :
    ∃ first behind, i.tokens = first :: behind ∧ first.kind ≠ .eof ∧ first.position = i.position ∧
      (execute first ⟨i.position, behind ++ rest⟩ state).2 = i.exec state ∧
      ((i.exec state).fault? = none →
        (execute first ⟨i.position, behind ++ rest⟩ state).1 = ⟨i.position, rest⟩) := by
  obtain ⟨first, behind, htokens, hkind, hposition, hdecode⟩ :=
    Statement.decode_tokens i.statement i.position rest
  refine ⟨first, behind, htokens, by simp [hkind], hposition, ?_⟩
  simp only [execute, hkind, hposition, hdecode]
  split
  next h =>
    -- the operand of the instruction is not looked at, which makes no difference to the outcome
    simp only [Bool.and_eq_true, decide_eq_true_eq, List.isEmpty_iff] at h
    have hexec := Statement.exec_of_underflow h.1 h.2 i.position i.position
    constructor
    · rw [Instruction.exec, hexec]
    · intro hnone
      rw [Instruction.exec, hexec] at hnone
      cases hnone
  next => exact ⟨rfl, fun _ => rfl⟩

theorem step_of_success {i : Instruction} {state : State σ} (h : (i.exec state).fault? = none)
    (last : Position) (rest : List Token) :
    step ⟨⟨last, i.tokens ++ rest⟩, state, true⟩ =
      (⟨⟨i.position, rest⟩, (i.exec state).state, true⟩, none) := by
  obtain ⟨first, behind, htokens, hkind, hposition, hexec, hcursor⟩ := execute_tokens i rest state
  simp only [step, Cursor.next, htokens, List.cons_append, hposition, hexec, hcursor h, h]
  simp [hkind]

theorem step_of_fault {i : Instruction} {state : State σ} {fault : Fault}
    (h : (i.exec state).fault? = some fault) (last : Position) (rest : List Token) :
    ∃ cursor, step ⟨⟨last, i.tokens ++ rest⟩, state, true⟩ =
      (⟨cursor, (i.exec state).state, false⟩, some fault) := by
  obtain ⟨first, behind, htokens, hkind, hposition, hexec, -⟩ := execute_tokens i rest state
  refine ⟨(execute first ⟨i.position, behind ++ rest⟩ state).1, ?_⟩
  simp only [step, Cursor.next, htokens, List.cons_append, hposition, hexec, h]
  simp

theorem step_onBlock_nil {closing : Token} (h : closing.kind = .eof) (last : Position)
    (state : State σ) :
    (onBlock last [] closing state).step =
      (⟨⟨closing.position, []⟩, (state.finish closing.position).state, false⟩,
        (state.finish closing.position).fault?) := by
  simp [onBlock, Block.tokens, step, Cursor.next, execute, h]

theorem step_onBlock_of_success {i : Instruction} {state : State σ}
    (h : (i.exec state).fault? = none) (last : Position) (block : Block) (closing : Token) :
    (onBlock last (i :: block) closing state).step =
      (onBlock i.position block closing (i.exec state).state, none) := by
  simp only [onBlock, Block.tokens, List.flatMap_cons, List.append_assoc]
  exact step_of_success h last _

theorem step_onBlock_of_fault {i : Instruction} {state : State σ} {fault : Fault}
    (h : (i.exec state).fault? = some fault) (last : Position) (block : Block) (closing : Token) :
    ∃ cursor, (onBlock last (i :: block) closing state).step =
      (⟨cursor, (i.exec state).state, false⟩, some fault) := by
  simp only [onBlock, Block.tokens, List.flatMap_cons, List.append_assoc]
  exact step_of_fault h last _

theorem fault?_step_onBlock (i : Instruction) (block : Block) (last : Position) (closing : Token)
    (state : State σ) :
    (onBlock last (i :: block) closing state).step.2 = (i.exec state).fault? := by
  cases hexec : (i.exec state).fault? with
  | none => rw [step_onBlock_of_success hexec]
  | some fault =>
    obtain ⟨cursor, hstep⟩ := step_onBlock_of_fault hexec last block closing
    rw [hstep]

theorem evaluate.go_onBlock {closing : Token} (h : closing.kind = .eof) (block : Block)
    (last : Position) (state : State σ) (count : Nat) (hcount : block.length < count) :
    (⟨(evaluate.go count (onBlock last block closing state)).1.state,
      (evaluate.go count (onBlock last block closing state)).2⟩ : Outcome σ) =
      (block.exec state).andThen fun state => state.finish closing.position := by
  induction block generalizing last state count with
  | nil =>
    cases count with
    | zero => simp at hcount
    | succ count =>
      simp only [evaluate.go, step_onBlock_nil h]
      simp only [onBlock, if_true, Block.exec, State.done, Outcome.andThen]
      -- with or without a fault the machine halts here, so the steps that are left do nothing
      cases hfinish : (state.finish closing.position).fault? with
      | none =>
        cases count <;> simp [evaluate.go, ← hfinish]
      | some fault => simp [← hfinish]
  | cons i block ih =>
    cases count with
    | zero => simp at hcount
    | succ count =>
      simp only [evaluate.go]
      cases hexec : (i.exec state).fault? with
      | none =>
        rw [step_onBlock_of_success hexec, Block.exec_cons_of_success hexec]
        simp only [onBlock, if_true] at ih ⊢
        apply ih
        simpa using hcount
      | some fault =>
        obtain ⟨cursor, hstep⟩ := step_onBlock_of_fault hexec last block closing
        rw [hstep, Block.exec, Outcome.andThen_of_some hexec, Outcome.andThen_of_some hexec]
        simp [onBlock, ← hexec]

theorem evaluate_onBlock {closing : Token} (h : closing.kind = .eof) (last : Position)
    (block : Block) (state : State σ) :
    (⟨(onBlock last block closing state).evaluate.1.state,
      (onBlock last block closing state).evaluate.2⟩ : Outcome σ) =
      (block.exec state).andThen fun state => state.finish closing.position := by
  apply evaluate.go_onBlock h
  have := block.length_le_length_tokens
  simp only [bound, onBlock, List.length_append, List.length_cons, List.length_nil]
  omega

theorem before_of_getElem?_steps {closing : Token} (h : closing.kind = .eof) {block : Block}
    {last : Position} {state : State σ} {count index : Nat} {t : Transition σ}
    (ht : ((onBlock last block closing state).steps count)[index]? = some t) :
    index ≤ block.length ∧
      ∃ last', t.before =
        onBlock last' (block.drop index) closing (Block.exec (block.take index) state).state := by
  induction block generalizing last state count index with
  | nil =>
    cases count with
    | zero => simp [steps] at ht
    | succ count =>
      rw [steps_succ_of_running rfl, step_onBlock_nil h, steps_of_halted rfl] at ht
      cases index with
      | zero =>
        cases ht
        exact ⟨Nat.le_refl 0, last, rfl⟩
      | succ index => simp at ht
  | cons i block ih =>
    cases count with
    | zero => simp [steps] at ht
    | succ count =>
      rw [steps_succ_of_running rfl] at ht
      cases index with
      | zero =>
        cases ht
        exact ⟨Nat.zero_le _, last, rfl⟩
      | succ index =>
        rw [List.getElem?_cons_succ] at ht
        cases hexec : (i.exec state).fault? with
        | none =>
          -- the steps behind the first are those of the rest of the block
          rw [step_onBlock_of_success hexec] at ht
          obtain ⟨hindex, last', hbefore⟩ := ih ht
          refine ⟨Nat.succ_le_succ hindex, last', ?_⟩
          rw [List.take_succ_cons, List.drop_succ_cons, Block.exec_cons_of_success hexec]
          exact hbefore
        | some fault =>
          obtain ⟨cursor, hstep⟩ := step_onBlock_of_fault hexec last block closing
          rw [hstep, steps_of_halted rfl] at ht
          simp at ht

theorem length_steps_onBlock {closing : Token} (h : closing.kind = .eof) {block : Block}
    {last : Position} {state : State σ} (hexec : (block.exec state).fault? = none) (count : Nat) :
    ((onBlock last block closing state).steps count).length = min count (block.length + 1) := by
  induction block generalizing last state count with
  | nil =>
    cases count with
    | zero => simp [steps]
    | succ count =>
      rw [steps_succ_of_running rfl, step_onBlock_nil h, steps_of_halted rfl]
      simp
  | cons i block ih =>
    cases count with
    | zero => simp [steps]
    | succ count =>
      rw [Block.exec, Outcome.fault?_andThen_eq_none_iff] at hexec
      rw [steps_succ_of_running rfl, step_onBlock_of_success hexec.1, List.length_cons,
        ih hexec.2, List.length_cons]
      omega

theorem afterSteps_onBlock {block : Block} {last : Position} {closing : Token} {state : State σ}
    {count : Nat} (hcount : count ≤ block.length)
    (h : ∀ t ∈ (onBlock last block closing state).steps count, t.fault? = none) :
    Block.exec (block.take count) state =
      ⟨((onBlock last block closing state).afterSteps
        ((onBlock last block closing state).steps count)).state, none⟩ := by
  induction count generalizing block last state with
  | zero => rfl
  | succ count ih =>
    cases block with
    | nil => simp at hcount
    | cons i block =>
      rw [steps_succ_of_running rfl, List.forall_mem_cons] at h
      cases hexec : (i.exec state).fault? with
      | none =>
        rw [step_onBlock_of_success hexec] at h
        rw [steps_succ_of_running rfl, step_onBlock_of_success hexec, afterSteps_cons,
          List.take_succ_cons, Block.exec_cons_of_success hexec]
        apply ih
        · simpa using hcount
        · exact h.2
      | some fault =>
        obtain ⟨cursor, hstep⟩ := step_onBlock_of_fault hexec last block closing
        rw [hstep] at h
        cases h.1

theorem state_afterSteps_onBlock {closing : Token} (h : closing.kind = .eof) (block : Block)
    (last : Position) (state : State σ) (count : Nat) :
    ((onBlock last block closing state).afterSteps
      ((onBlock last block closing state).steps count)).state =
      (Block.exec (block.take count) state).state := by
  induction count generalizing block last state with
  | zero => rfl
  | succ count ih =>
    rw [steps_succ_of_running rfl, afterSteps_cons]
    cases block with
    | nil =>
      rw [step_onBlock_nil h, steps_of_halted rfl, afterSteps_nil]
      apply State.state_finish
    | cons i block =>
      rw [List.take_succ_cons]
      cases hexec : (i.exec state).fault? with
      | none =>
        rw [step_onBlock_of_success hexec, Block.exec_cons_of_success hexec]
        apply ih
      | some fault =>
        obtain ⟨cursor, hstep⟩ := step_onBlock_of_fault hexec last block closing
        rw [hstep, steps_of_halted rfl, Block.exec, Outcome.andThen_of_some hexec]
        rfl

end Machine
end Stackline
