import Stackline.Log.Event
import Stackline.Proofs.Source.Lex
import Stackline.Proofs.Statement.Effect

/-!
What the statements that were executed say about the stack and the scope: how many values there are
and which variables, without looking at any value.
-/

namespace Stackline

variable {σ : Type} [Sink σ]

namespace Statement

/--
The statement leaves one value more on the stack.
-/
def pushes : Statement → Bool
  | .push _ | .pushd _ => true
  | _ => false

/--
The statement leaves one value less on the stack. Of the two operands of an arithmetic instruction
one is replaced by the result.
-/
def consumes : Statement → Bool
  | .arith _ | .discard | .pop _ | .print => true
  | _ => false

def declares (name : Text) : Statement → Bool
  | .var _ declared => declared = name
  | _ => false

def removes (name : Text) : Statement → Bool
  | .drop (some removed) | .pushd (.name (some removed)) => removed = name
  | _ => false

/--
For each of the statements that declares or removes a name, whether it declares it.
-/
def bindings (name : Text) (statements : List Statement) : List Bool :=
  (statements.filter fun s => s.declares name || s.removes name).map (declares name)

theorem bindings_cons (name : Text) (s : Statement) (statements : List Statement) :
    bindings name (s :: statements) =
      if s.declares name || s.removes name then
        s.declares name :: bindings name statements
      else
        bindings name statements := by
  simp only [bindings, List.filter_cons]
  split <;> rfl

theorem length_stack_of_effect {last : Position} {s : Statement} {state state' : State σ}
    (h : Effect last s state state') :
    (state'.stack.length + if s.consumes then 1 else 0) =
      state.stack.length + if s.pushes then 1 else 0 := by
  cases h <;> rfl

end Statement

def State.holds (state : State σ) (name : Text) : Bool :=
  (state.scope.get? name).isSome

omit [Sink σ] in
@[simp]
theorem State.holds_start (sink : σ) (name : Text) : (start sink).holds name = false := rfl

namespace Scope

theorem isSome_get?_insert {scope : Scope} {name : Text} {x : Variable}
    (hx : scope.get? name = some x) (y : Variable) (other : Text) :
    ((scope.insert name y).get? other).isSome = (scope.get? other).isSome := by
  by_cases h : other = name
  · rw [h, get?_insert_self, hx]
    rfl
  · rw [get?_insert_of_ne h]

theorem isSome_get?_erase_cases {scope : Scope} {name : Text} {x : Variable}
    (hx : scope.get? name = some x) (other : Text) :
    (decide (name = other) = true ∧ (scope.get? other).isSome = true ∧
      ((scope.erase name).get? other).isSome = false) ∨
    (decide (name = other) = false ∧
      ((scope.erase name).get? other).isSome = (scope.get? other).isSome) := by
  by_cases h : name = other
  · left
    subst h
    simp [hx]
  · right
    rw [get?_erase_of_ne (Ne.symm h)]
    simp [h]

end Scope

namespace Statement

theorem holds_cases {last : Position} {s : Statement} {state state' : State σ}
    (h : Effect last s state state') (name : Text) :
    (s.declares name = true ∧ s.removes name = false ∧ state.holds name = false ∧
      state'.holds name = true) ∨
    (s.declares name = false ∧ s.removes name = true ∧ state.holds name = true ∧
      state'.holds name = false) ∨
    (s.declares name = false ∧ s.removes name = false ∧
      state'.holds name = state.holds name) := by
  cases h with
  | pushdName hx hvalue =>
    right
    rcases Scope.isSome_get?_erase_cases hx name with ⟨hname, hbefore, hafter⟩ | ⟨hname, hkept⟩
    · exact .inl ⟨rfl, hname, hbefore, hafter⟩
    · exact .inr ⟨rfl, hname, hkept⟩
  | drop hx =>
    right
    rcases Scope.isSome_get?_erase_cases hx name with ⟨hname, hbefore, hafter⟩ | ⟨hname, hkept⟩
    · exact .inl ⟨rfl, hname, hbefore, hafter⟩
    · exact .inr ⟨rfl, hname, hkept⟩
  | @var ty declared _ hrefusal =>
    by_cases hname : declared = name
    · left
      subst hname
      obtain ⟨-, -, hfree⟩ := Scope.refusal?_eq_none_iff.1 hrefusal
      simp [declares, removes, State.holds, hfree]
    · right
      right
      simp [declares, removes, State.holds, Scope.get?_insert_of_ne (Ne.symm hname), hname]
  -- a variable that receives a value was in scope before
  | pop hx => exact .inr (.inr ⟨rfl, rfl, Scope.isSome_get?_insert hx _ name⟩)
  | move hx hread => exact .inr (.inr ⟨rfl, rfl, Scope.isSome_get?_insert hx _ name⟩)
  | _ => exact .inr (.inr ⟨rfl, rfl, rfl⟩)

end Statement

theorem Instruction.effect_of_exec {i : Instruction} {state : State σ}
    (h : (i.exec state).fault? = none) :
    Statement.Effect i.position i.statement state (i.exec state).state :=
  Statement.effect_of_exec h

namespace Block

def statements (block : Block) : List Statement :=
  block.map Instruction.statement

theorem statements_cons (i : Instruction) (block : Block) :
    statements (i :: block) = i.statement :: block.statements := rfl

theorem length_stack_exec {block : Block} {state : State σ} (h : (block.exec state).fault? = none) :
    (block.exec state).state.stack.length + block.statements.countP Statement.consumes =
      state.stack.length + block.statements.countP Statement.pushes := by
  induction block generalizing state with
  | nil => rfl
  | cons i block ih =>
    rw [exec, Outcome.fault?_andThen_eq_none_iff] at h
    rw [exec_cons_of_success h.1]
    have hstep := Statement.length_stack_of_effect (i.effect_of_exec h.1)
    have hrest := ih h.2
    rw [statements_cons, List.countP_cons, List.countP_cons]
    omega

theorem holds_exec {block : Block} {state : State σ} (h : (block.exec state).fault? = none)
    (name : Text) :
    ((block.exec state).state.holds name).toNat +
        block.statements.countP (Statement.removes name) =
      (state.holds name).toNat + block.statements.countP (Statement.declares name) := by
  induction block generalizing state with
  | nil => rfl
  | cons i block ih =>
    rw [exec, Outcome.fault?_andThen_eq_none_iff] at h
    rw [exec_cons_of_success h.1]
    have hrest := ih h.2
    rw [statements_cons, List.countP_cons, List.countP_cons]
    rcases Statement.holds_cases (i.effect_of_exec h.1) name with
      ⟨hdeclares, hremoves, hbefore, hafter⟩ | ⟨hdeclares, hremoves, hbefore, hafter⟩ |
      ⟨hdeclares, hremoves, hkept⟩
    · rw [hafter, Bool.toNat_true] at hrest
      rw [hdeclares, hremoves, hbefore, Bool.toNat_false, if_pos rfl, if_neg Bool.false_ne_true]
      omega
    · rw [hafter, Bool.toNat_false] at hrest
      rw [hdeclares, hremoves, hbefore, Bool.toNat_true, if_pos rfl, if_neg Bool.false_ne_true]
      omega
    · rw [hkept] at hrest
      rw [hdeclares, hremoves, if_neg Bool.false_ne_true]
      exact hrest

theorem bindings_exec {block : Block} {state : State σ} (h : (block.exec state).fault? = none)
    (name : Text) :
    ∃ n, (if state.holds name then [true] else []) ++ Statement.bindings name block.statements =
      (List.replicate n [true, false]).flatten ++
        if (block.exec state).state.holds name then [true] else [] := by
  induction block generalizing state with
  | nil =>
    refine ⟨0, ?_⟩
    rw [List.replicate_zero, List.flatten_nil, List.nil_append]
    exact List.append_nil _
  | cons i block ih =>
    rw [exec, Outcome.fault?_andThen_eq_none_iff] at h
    rw [exec_cons_of_success h.1]
    obtain ⟨n, hn⟩ := ih h.2
    rw [statements_cons, Statement.bindings_cons]
    rcases Statement.holds_cases (i.effect_of_exec h.1) name with
      ⟨hdeclares, hremoves, hbefore, hafter⟩ | ⟨hdeclares, hremoves, hbefore, hafter⟩ |
      ⟨hdeclares, hremoves, hkept⟩
    · -- the declaration counts in for the rest of the block as one that stands before it
      refine ⟨n, ?_⟩
      rw [← hn]
      simp [hdeclares, hbefore, hafter]
    · -- the removal closes a pair, whose declaration stands before the block
      refine ⟨n + 1, ?_⟩
      rw [List.replicate_succ, List.flatten_cons, List.append_assoc, ← hn]
      simp [hdeclares, hremoves, hbefore, hafter]
    · refine ⟨n, ?_⟩
      rw [← hn]
      simp [hdeclares, hremoves, hkept]

variable {block : Block} {sink : σ} {state : State σ}

theorem length_stack_of_start (h : block.exec (State.start sink) = ⟨state, none⟩) :
    (state.stack.length : Int) =
      block.statements.countP Statement.pushes - block.statements.countP Statement.consumes := by
  have hlength := length_stack_exec (congrArg Outcome.fault? h)
  rw [h] at hlength
  simp only [State.start, List.length_nil] at hlength
  omega

theorem holds_of_start (h : block.exec (State.start sink) = ⟨state, none⟩) (name : Text) :
    ((state.holds name).toNat : Int) =
      block.statements.countP (Statement.declares name) -
        block.statements.countP (Statement.removes name) := by
  have hholds := holds_exec (congrArg Outcome.fault? h) name
  simp only [h, State.holds_start, Bool.toNat_false] at hholds
  omega

end Block

theorem Source.statements_eq_block (source : Text) :
    Source.statements source = (Source.block source).statements := by
  rw [Block.statements, Source.block, List.map_filterMap, Source.statements]
  congr 1
  funext line
  rw [Line.instruction?]
  cases line.parse <;> rfl

/--
In a program that was read from a source, the number of values on the stack and the variables in
scope follow from the statements that were executed. If the program runs to its end, it consumes as
many values as it pushes, and each name is declared and removed in turns.
-/
theorem balance_of_steps {source : Text} {tokens : List Token}
    (h : Source.lex source = .ok tokens) (sink : σ) :
    let machine := Machine.start tokens sink
    (∀ count ≤ (Source.codeLines source).length,
      (∀ t ∈ machine.steps count, t.fault? = none) →
        let state := (machine.afterSteps (machine.steps count)).state
        let executed := (Source.statements source).take count
        (state.stack.length : Int) =
            executed.countP Statement.pushes - executed.countP Statement.consumes ∧
          ∀ name, let balance : Int := executed.countP (Statement.declares name) -
              executed.countP (Statement.removes name)
            (balance = 0 ∨ balance = 1) ∧ (state.holds name ↔ balance = 1)) ∧
    ((run source sink).fault? = none →
      (Source.statements source).countP Statement.pushes =
          (Source.statements source).countP Statement.consumes ∧
        ∀ name, ∃ n, Statement.bindings name (Source.statements source) =
          (List.replicate n [true, false]).flatten) := by
  intro machine
  rw [Source.statements_eq_block]
  constructor
  · intro count hcount hsteps state executed
    have hexec : Block.exec ((Source.block source).take count) (State.start sink) = ⟨state, none⟩ :=
      Source.exec_take_of_steps h hcount hsteps
    have hexecuted : executed = Block.statements ((Source.block source).take count) :=
      List.map_take.symm
    rw [hexecuted]
    constructor
    · exact Block.length_stack_of_start hexec
    · intro name balance
      have hbalance : ((state.holds name).toNat : Int) = balance := Block.holds_of_start hexec name
      rw [← hbalance]
      cases state.holds name <;> simp
  · intro hrun
    have hexec := exec_of_run hrun
    have hsuccess := congrArg Outcome.fault? hexec
    constructor
    · have hlength := Block.length_stack_exec hsuccess
      rw [hexec] at hlength
      simp only [State.start, List.length_nil] at hlength
      omega
    · intro name
      obtain ⟨n, hn⟩ := Block.bindings_exec hsuccess name
      rw [hexec] at hn
      exact ⟨n, by simpa using hn⟩

theorem balance_of_steps_popped :
    ∃ tokens, Source.lex "var int x\npush int 4\npop x\npushd x\nprint".toList = .ok tokens ∧
      let machine := Machine.start tokens (Store.empty none)
      (machine.afterSteps (machine.steps 3)).state.stack.length = 0 ∧
        (machine.afterSteps (machine.steps 3)).state.holds ['x'] = true ∧
        ∃ n, Statement.bindings ['x']
            (Source.statements "var int x\npush int 4\npop x\npushd x\nprint".toList) =
          (List.replicate n [true, false]).flatten := by
  have h : Source.lex "var int x\npush int 4\npop x\npushd x\nprint".toList = .ok
      ((Source.block "var int x\npush int 4\npop x\npushd x\nprint".toList).tokens ++
        [Source.endToken "var int x\npush int 4\npop x\npushd x\nprint".toList]) := rfl
  obtain ⟨hsteps, hrun⟩ := balance_of_steps h (Store.empty none)
  have hthree := hsteps 3 (by decide +kernel) (by decide +kernel)
  refine ⟨_, h, ?_, ?_, ?_⟩
  · exact Int.ofNat_inj.1 (hthree.1.trans (by decide +kernel))
  · exact (hthree.2 ['x']).2.2 (by decide +kernel)
  · exact (hrun (by decide +kernel)).2 ['x']

end Stackline
