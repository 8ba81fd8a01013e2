import Stackline.Proofs.Relocation
import Stackline.Proofs.Statement.Print

/-!
What becomes of a program when another one is put before it: its lines move down, its bytes move
back, and its output comes behind that of the other. Such a displacement is a relocation together
with a map of stores that writing follows, so execution commutes with it.
-/

namespace Stackline

/--
What stands before a program: a number of lines and of bytes in the source, and the bytes that were
printed by then.
-/
structure Displacement where
  lines : Nat
  bytes : Nat
  output : Array UInt8
  deriving Repr, DecidableEq

def Span.shift (d : Displacement) (span : Span) : Span :=
  ⟨span.offset + d.bytes, span.length⟩

def Position.shift (d : Displacement) (position : Position) : Position :=
  ⟨position.line + d.lines, position.span.shift d⟩

def Label.shift (d : Displacement) (label : Label) : Label :=
  ⟨label.text, label.span.shift d⟩

def Variable.shift (d : Displacement) (x : Variable) : Variable :=
  { x with position := x.position.shift d }

def Scope.shift (d : Displacement) (scope : Scope) : Scope :=
  scope.map fun entry => (entry.1, entry.2.shift d)

/--
The store behind what was printed before. It has as much room as without it.
-/
def Store.shift (d : Displacement) (store : Store) : Store :=
  ⟨d.output ++ store.written, store.limit?.map (· + d.output.size)⟩

def State.shift (d : Displacement) (state : State Store) : State Store :=
  ⟨state.stack, state.scope.shift d, state.sink.shift d⟩

def Cause.shift (d : Displacement) : Cause → Cause
  | .alreadyDefined name line => .alreadyDefined name (line + d.lines)
  | .leftoverVariables left => .leftoverVariables (left.map (Variable.shift d))
  | cause => cause

def Fault.shift (d : Displacement) : Fault → Fault
  | .located position cause => .located (position.shift d) (cause.shift d)
  | fault => fault

def Outcome.shift (d : Displacement) (outcome : Outcome Store) : Outcome Store :=
  outcome.map (State.shift d) (Fault.shift d)

def Instruction.shift (d : Displacement) (i : Instruction) : Instruction :=
  ⟨i.position.shift d, i.statement⟩

def Block.shift (d : Displacement) (block : Block) : Block :=
  block.map (Instruction.shift d)

variable (d : Displacement)

theorem Store.follows_shift : Sink.Follows (Store.shift d) := by
  intro store bytes
  -- what was printed before takes up the room that the limit is raised by
  have hroom : (store.shift d).room bytes.length = store.room bytes.length := by
    unfold room shift
    cases store.limit? with
    | none => rfl
    | some limit =>
      simp only [Option.map_some, Array.size_append]
      congr 1
      omega
  have hwritten : d.output ++ store.written ++ bytes.take (store.room bytes.length) =
      d.output ++ (store.written ++ bytes.take (store.room bytes.length)) := by
    rw [← Array.toList_inj]
    simp
  simp only [Sink.write, write, hroom]
  simp only [shift, hwritten]

def Displacement.relocation : Relocation :=
  ⟨(· + d.lines), Span.shift d, by omega⟩

namespace Cause

theorem shift_eq_relocate (cause : Cause) : cause.shift d = cause.relocate d.relocation := by
  cases cause <;> rfl

theorem shift_of_isReading {cause : Cause} (h : cause.isReading) : cause.shift d = cause := by
  rw [shift_eq_relocate]
  exact relocate_of_isReading d.relocation h

end Cause

namespace Fault

theorem shift_eq_relocate (fault : Fault) : fault.shift d = fault.relocate d.relocation := by
  cases fault with
  | located position cause =>
    rw [shift, Cause.shift_eq_relocate]
    rfl
  | unreadable path reason => rfl
  | output => rfl

theorem code_shift (fault : Fault) : (fault.shift d).code = fault.code := by
  rw [shift_eq_relocate]
  apply code_relocate

theorem position?_shift (fault : Fault) :
    (fault.shift d).position? = fault.position?.map (Position.shift d) := by
  rw [shift_eq_relocate]
  apply position?_relocate

theorem labels_shift (fault : Fault) :
    (fault.shift d).labels = fault.labels.map (Label.shift d) := by
  rw [shift_eq_relocate]
  apply labels_relocate

end Fault

/--
To displace is to relocate and to put the output behind that of the other program.
-/
theorem Outcome.shift_eq_map (outcome : Outcome Store) :
    outcome.shift d =
      (outcome.relocate d.relocation).map (State.mapSink (Store.shift d)) id := by
  have hfault : Fault.shift d = Fault.relocate d.relocation := by
    funext fault
    apply Fault.shift_eq_relocate
  rw [shift, hfault, map, map, relocate, map, Option.map_id]
  rfl

theorem State.finish_shift (state : State Store) (position : Position) :
    (state.shift d).finish (position.shift d) = (state.finish position).shift d := by
  rw [Outcome.shift_eq_map, ← finish_relocate, ← finish_mapSink]
  rfl

theorem Statement.exec_shift (s : Statement) (first last : Position) (state : State Store) :
    s.exec (first.shift d) (last.shift d) (state.shift d) =
      (s.exec first last state).shift d := by
  rw [Outcome.shift_eq_map, ← exec_relocate, ← exec_mapSink (Store.follows_shift d)]
  rfl

theorem Block.exec_shift (block : Block) (state : State Store) :
    (block.shift d).exec (state.shift d) = (block.exec state).shift d := by
  apply exec_map
  intro i state
  apply Statement.exec_shift

end Stackline
