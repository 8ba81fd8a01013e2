import Stackline.Statement.Decode
import Stackline.Statement.Exec

/-!
The machine that executes tokens, one instruction in a step. It halts at the first fault and at the
end of the program.
-/

namespace Stackline

variable {σ : Type} [Sink σ]

structure Machine (σ : Type) where
  cursor : Cursor
  state : State σ
  running : Bool
  deriving Repr, DecidableEq

/--
A step that the machine made, with the fault that stopped it, if one did.
-/
structure Transition (σ : Type) where
  before : Machine σ
  after : Machine σ
  fault? : Option Fault
  deriving Repr, DecidableEq

/--
What the step wrote to a store.
-/
def Transition.output (t : Transition Store) : List UInt8 :=
  t.before.state.sink.since t.after.state.sink

namespace Machine

def start (tokens : List Token) (sink : σ) : Machine σ :=
  ⟨Cursor.start tokens, State.start sink, true⟩

/--
Execute the instruction that the token `first` begins. An instruction that pops looks at the stack
before it looks at its operand.
-/
def execute (first : Token) (cursor : Cursor) (state : State σ) : Cursor × Outcome σ :=
  match first.kind with
  | .eof => (cursor, state.finish first.position)
  | .instruction m =>
    if m = .pop && state.stack.isEmpty then
      (cursor, state.fail first.position (.stackUnderflow .pop))
    else
      match Statement.decode m first cursor with
      | .error fault => (cursor, ⟨state, some fault⟩)
      | .ok (s, cursor) => (cursor, s.exec first.position cursor.last state)
  | kind => (cursor, state.fail first.position (.notInstruction kind))

/--
Make one step of a running machine.
-/
def step (machine : Machine σ) : Machine σ × Option Fault :=
  match machine.cursor.next with
  | .error fault => ({ machine with running := false }, some fault)
  | .ok (first, cursor) =>
    let (cursor, outcome) := execute first cursor machine.state
    let running := outcome.fault?.isNone && first.kind ≠ .eof
    (⟨cursor, outcome.state, running⟩, outcome.fault?)

/--
Make one step, unless the machine has halted.
-/
def next (machine : Machine σ) : Option (Transition σ) :=
  if machine.running then
    let (after, fault?) := machine.step
    some ⟨machine, after, fault?⟩
  else
    none

/--
The next steps, at most `count`.
-/
def steps : (count : Nat) → Machine σ → List (Transition σ)
  | 0, _ => []
  | count + 1, machine =>
    match machine.next with
    | none => []
    | some t => t :: steps count t.after

/--
A number of steps after which the machine has halted, as each takes a token or finds none.
-/
def bound (machine : Machine σ) : Nat :=
  machine.cursor.tokens.length + 1

/--
Make steps until the machine halts.
-/
def evaluate (machine : Machine σ) : Machine σ × Option Fault :=
  go machine.bound machine
where
  go : Nat → Machine σ → Machine σ × Option Fault
    | 0, machine => (machine, none)
    | count + 1, machine =>
      if machine.running then
        match machine.step with
        | (after, some fault) => (after, some fault)
        | (after, none) => go count after
      else
        (machine, none)

theorem next_eq_none_iff {machine : Machine σ} : machine.next = none ↔ machine.running = false := by
  unfold next
  split <;> simp_all

theorem next_of_running {machine : Machine σ} (h : machine.running) :
    machine.next = some ⟨machine, machine.step.1, machine.step.2⟩ := by
  simp [next, h]

/--
A step that is stopped by a fault leaves the machine halted.
-/
theorem running_step_of_fault {machine : Machine σ} {fault : Fault}
    (h : machine.step.2 = some fault) : machine.step.1.running = false := by
  unfold step at h ⊢
  split
  next => rfl
  next => simp_all

theorem steps_of_halted {machine : Machine σ} (h : machine.running = false) (count : Nat) :
    machine.steps count = [] := by
  cases count with
  | zero => rfl
  | succ count => simp [steps, next_eq_none_iff.2 h]

theorem evaluate_of_halted {machine : Machine σ} (h : machine.running = false) :
    machine.evaluate = (machine, none) := by
  simp [evaluate, evaluate.go, bound, h]

/--
The machine after some of its steps.
-/
def afterSteps (machine : Machine σ) (transitions : List (Transition σ)) : Machine σ :=
  (transitions.getLast?.map Transition.after).getD machine

end Machine

/--
The single steps of a machine that prints to a store, and what evaluating the rest of its program
then does.
-/
structure Trace where
  transitions : List (Transition Store)
  /-- The machine had halted when the steps came to an end. -/
  ended : Bool
  /-- What evaluation wrote after the steps. -/
  restOutput : List UInt8
  restFault? : Option Fault

/--
Trace a machine for a number of steps or, without one, until it halts.
-/
def Machine.trace (machine : Machine Store) (count? : Option Nat) : Trace :=
  let transitions := machine.steps (count?.getD machine.bound)
  let stopped := machine.afterSteps transitions
  let (after, fault?) := stopped.evaluate
  { transitions
    ended := count?.all (transitions.length < ·)
    restOutput := stopped.state.sink.since after.state.sink
    restFault? := fault? }

end Stackline
