import Stackline.Proofs.Machine.Transition
import Stackline.Proofs.Statement.Effect

/-!
What a step that a fault stopped leaves behind. It leaves the stack, the scope and the sink as they
were, unless it fails midway: `FailsMidway` lists the cases in which the fault comes to light only
after the first change.
-/

namespace Stackline

variable {σ : Type} [Sink σ]

namespace Machine

/--
The steps that fail behind a change of the state, with the fault and the state that is left.
-/
inductive FailsMidway (machine : Machine σ) : Fault → State σ → Prop where
  /-- A variable that has no value has left the scope. -/
  | unassigned {first operands rest name x}
    (h : machine.Faces first operands rest (.pushd (.name (some name))))
    (hx : machine.state.scope.get? name = some x) (hvalue : x.value? = none) :
    FailsMidway machine
      (.located (Cursor.behind first.position operands rest).last (.unassigned name))
      { machine.state with scope := machine.state.scope.erase name }
  /-- The two operands have left the stack. -/
  | boolOperand {first operands rest op a b stack}
    (h : machine.Faces first operands rest (.arith op))
    (hstack : machine.state.stack = a :: b :: stack) (hbool : a.isBool ∨ b.isBool) :
    FailsMidway machine (.located first.position (.boolOperand op)) { machine.state with stack }
  | arithmetic {first operands rest op a b stack error}
    (h : machine.Faces first operands rest (.arith op))
    (hstack : machine.state.stack = a :: b :: stack) (hbool : ¬ (a.isBool ∨ b.isBool))
    (happly : op.apply a b = .error error) :
    FailsMidway machine (.located first.position (.arithmetic error)) { machine.state with stack }
  /-- The value has left the stack, and the sink holds as much of its line as it takes. -/
  | print {first operands rest value stack sink} (h : machine.Faces first operands rest .print)
    (hstack : machine.state.stack = value :: stack)
    (hwrite : Sink.write machine.state.sink value.printed = (sink, false)) :
    FailsMidway machine .output { machine.state with stack, sink }
  | printVariable {first operands rest name value sink}
    (h : machine.Faces first operands rest (.printVariable name))
    (hread : machine.state.scope.read name = .ok value)
    (hwrite : Sink.write machine.state.sink value.printed = (sink, false)) :
    FailsMidway machine .output { machine.state with sink }

namespace FailsMidway

variable {machine : Machine σ} {fault : Fault} {state : State σ}

theorem step_eq (h : machine.FailsMidway fault state) :
    machine.step.1.state = state ∧ machine.step.2 = some fault := by
  obtain ⟨cursor, ⟨stack, scope, sink⟩, running⟩ := machine
  cases h with
  | unassigned h hx hvalue =>
    rw [step_of_faces h (by rintro ⟨⟩)]
    simp only [Statement.exec, Statement.execTake, hx, hvalue]
    exact ⟨rfl, rfl⟩
  | boolOperand h hstack hbool =>
    cases hstack
    rw [step_of_faces h (by rintro ⟨⟩)]
    simp only [Statement.exec, Statement.execArith, Bool.or_eq_true, if_pos hbool]
    exact ⟨rfl, rfl⟩
  | arithmetic h hstack hbool happly =>
    cases hstack
    rw [step_of_faces h (by rintro ⟨⟩)]
    simp only [Statement.exec, Statement.execArith, Bool.or_eq_true, if_neg hbool, happly]
    exact ⟨rfl, rfl⟩
  | @print first operands rest value stack sink' h hstack hwrite =>
    cases hstack
    have hprint : State.print ⟨stack, scope, sink⟩ value =
        ⟨⟨stack, scope, sink'⟩, some .output⟩ :=
      @State.print_of_write _ _ ⟨stack, scope, sink⟩ value sink' false hwrite
    rw [step_of_faces h (by rintro ⟨⟩)]
    simp only [Statement.exec, hprint, and_self]
  | printVariable h hread hwrite =>
    rw [step_of_faces h (by rintro ⟨⟩)]
    simp only [Statement.exec, hread]
    rw [State.print_of_write hwrite]
    exact ⟨rfl, rfl⟩

/--
A statement that leaves something else than it found fails midway.
-/
theorem of_residue {first : Token} {operands rest : List Token} {s : Statement}
    (h : machine.Faces first operands rest s) (hresidue : Statement.Residue s machine.state state) :
    state = machine.state ∨ ∃ fault, machine.FailsMidway fault state := by
  obtain ⟨cursor, start, running⟩ := machine
  dsimp only at hresidue
  cases hresidue with
  | unchanged => exact .inl rfl
  | pushdName hx hvalue => exact .inr ⟨_, .unassigned h hx hvalue⟩
  | @arith op a b stack scope sink hfault =>
    right
    by_cases hbool : a.isBool ∨ b.isBool
    · exact ⟨_, .boolOperand h rfl hbool⟩
    · rw [Bool.or_eq_true] at hfault
      obtain ⟨error, herror⟩ := hfault.resolve_left hbool
      exact ⟨_, .arithmetic h rfl hbool herror⟩
  | print hwrite => exact .inr ⟨_, .print h rfl hwrite⟩
  | printVariable hread hwrite => exact .inr ⟨_, .printVariable h hread hwrite⟩

end FailsMidway

theorem state_step_of_fault {machine : Machine σ} {fault : Fault}
    (hfault : machine.step.2 = some fault) :
    machine.step.1.state = machine.state ∨
      ∃ fault', machine.FailsMidway fault' machine.step.1.state := by
  have hstep := machine.step_spec
  generalize machine.step.1 = after, machine.step.2 = fault? at hstep hfault
  cases hstep with
  | exhausted | finish | refuse => exact .inl rfl
  | exec h houtcome =>
    subst houtcome
    exact FailsMidway.of_residue h (Statement.residue_of_exec hfault).1

end Machine

/--
A step that is stopped by a fault halts the machine. It leaves the stack, the scope and the sink as
they were, except in the cases of `Machine.FailsMidway`: there it leaves what they say, and the
fault is the one that they name.
-/
theorem state_of_failed_step {machine : Machine σ} {t : Transition σ} {fault : Fault}
    (h : machine.next = some t) (hfault : t.fault? = some fault) :
    t.after.next = none ∧
      (∀ fault' state, machine.FailsMidway fault' state → fault' = fault ∧ t.after.state = state) ∧
      ((∀ fault' state, ¬ machine.FailsMidway fault' state) → t.after.state = machine.state) := by
  have hrunning : machine.running := by
    cases hrun : machine.running with
    | true => rfl
    | false =>
      rw [Machine.next_eq_none_iff.2 hrun] at h
      cases h
  rw [Machine.next_of_running hrunning] at h
  cases h
  refine ⟨?_, ?_, ?_⟩
  · exact Machine.next_eq_none_iff.2 (Machine.running_step_of_fault hfault)
  · intro fault' state hmidway
    obtain ⟨hstate, hfault'⟩ := hmidway.step_eq
    exact ⟨Option.some.inj (hfault'.symm.trans hfault), hstate⟩
  · intro hnone
    rcases Machine.state_step_of_fault hfault with hstate | ⟨fault', hmidway⟩
    · exact hstate
    · exact absurd hmidway (hnone _ _)

theorem state_of_failed_step_unassigned :
    let x : Variable := ⟨['x'], .int, ⟨1, ⟨0, 9⟩⟩, none⟩
    let y : Variable := ⟨['y'], .bool, ⟨2, ⟨10, 10⟩⟩, some (.bool true)⟩
    let tokens := (Statement.pushd (.name (some ['x']))).tokens ⟨3, ⟨21, 7⟩⟩
    let machine : Machine Store :=
      ⟨Cursor.start tokens, ⟨[.int 7], [(['x'], x), (['y'], y)], Store.empty none⟩, true⟩
    ∃ t, machine.next = some t ∧
      t.fault? = some (.located ⟨3, ⟨21, 7⟩⟩ (.unassigned ['x'])) ∧ t.after.next = none ∧
      t.after.state = ⟨[.int 7], [(['y'], y)], Store.empty none⟩ := by
  intro x y tokens machine
  have hnext : machine.next = some ⟨machine, machine.step.1, machine.step.2⟩ := rfl
  have hfault : machine.step.2 = some (.located ⟨3, ⟨21, 7⟩⟩ (.unassigned ['x'])) := rfl
  obtain ⟨hhalt, hmidway, -⟩ := state_of_failed_step hnext hfault
  have hfaces : machine.Faces ⟨.instruction .pushd, ⟨3, ⟨21, 7⟩⟩, none⟩
      [⟨.ident, ⟨3, ⟨21, 7⟩⟩, some (.text ['x'])⟩] [] (.pushd (.name (some ['x']))) :=
    ⟨rfl, rfl, .pushd (.name rfl)⟩
  obtain ⟨-, hstate⟩ := hmidway _ _ (.unassigned hfaces rfl rfl)
  exact ⟨_, hnext, hfault, hhalt, hstate⟩

end Stackline
