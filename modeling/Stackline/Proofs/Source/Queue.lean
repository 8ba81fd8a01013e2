import Stackline.Reader

/-!
Reading through a queue. The tokens of a line are queued one by one as the line is read, so a
malformed line may leave the token of its instruction behind, which the reader clears. Main
statement: a reader that works this way gives the same answers and has the same state after each of
them.
-/

namespace Stackline

/--
A computation that puts tokens at the end of a queue. They stay there if it fails.
-/
abbrev Queueing (α : Type) :=
  ExceptT Cause (StateM (List Token)) α

namespace Queueing

variable (position : Position)

def emit (kind : Kind) (payload : Option Payload) : Queueing Unit :=
  modify fun queue => queue ++ [⟨kind, position, payload⟩]

/--
Queue a name, whose text is left out if it is empty.
-/
def emitName (name : Text) : Queueing Unit :=
  emit position .ident (name.nonempty?.map .text)

/--
Queue an instruction that puts its operand on the stack.
-/
def withOperand (m : Mnemonic) (rest : Text) : Queueing Unit := do
  emit position (.instruction m) none
  match ← Operand.parse rest with
  | .name name? => emit position .ident (name?.map .text)
  | .literal ty text =>
    emit position .type (some (.type ty))
    emit position .value (some (.text text))

/--
Queue an instruction and what stands behind its word. Only an assignment is checked before anything
is queued.
-/
def instruction (rest : Text) : Mnemonic → Queueing Unit
  | .push => withOperand position .push rest
  | .pushd => withOperand position .pushd rest
  | .arith op => emit position (.instruction (.arith op)) none
  | .pop => do
    emit position (.instruction .pop) none
    if rest = "drop".toList then
      emit position (.instruction .drop) none
    else
      emitName position rest
  | .drop => do
    emit position (.instruction .drop) none
    emitName position rest
  | .var => do
    emit position (.instruction .var) none
    match ← Operand.parse rest with
    | .literal ty name =>
      emit position .type (some (.type ty))
      emit position .ident (some (.text name))
    | .name _ => throw .declarationForm
  | .move =>
    match rest.cut? Text.isBlank with
    | none => throw .assignmentForm
    | some (name, text) => do
      if name.all Char.isDigit then
        throw .numericName
      emit position (.instruction .move) none
      emit position .ident (some (.text name))
      emit position .value (some (.text (Text.trim text)))
  | .print =>
    if rest.isEmpty then
      emit position (.instruction .print) none
    else do
      emit position (.instruction .print) (some (.sentinel .ident))
      emit position .ident (some (.text rest))

def line (line : Line) : Queueing Unit :=
  match Mnemonic.split? line.trimmed with
  | none => throw (.unknownInstruction line.trimmed)
  | some (m, rest) => instruction line.position rest m

/--
Run a computation on a queue.
-/
def on (x : Queueing Unit) (queue : List Token) : Except Cause Unit × List Token :=
  StateT.run (ExceptT.run x) queue

/--
What an instruction that is not well formed leaves in the queue.
-/
def residue : Mnemonic → List Token
  | .push => [⟨.instruction .push, position, none⟩]
  | .pushd => [⟨.instruction .pushd, position, none⟩]
  | .var => [⟨.instruction .var, position, none⟩]
  | _ => []

/--
What a malformed line leaves in the queue.
-/
def residueOfLine (line : Line) : List Token :=
  (Mnemonic.split? line.trimmed).elim [] fun (m, _) => residue line.position m

/--
A statement is queued as a whole, and an error leaves its residue.
-/
def outcome (residue queue : List Token) : Except Cause Statement → Except Cause Unit × List Token
  | .ok s => (.ok (), queue ++ s.tokens position)
  | .error cause => (.error cause, queue ++ residue)

variable {position}

theorem on_emit_bind (kind : Kind) (payload : Option Payload) (x : Unit → Queueing Unit)
    (queue : List Token) :
    (emit position kind payload >>= x).on queue =
      (x ()).on (queue ++ [⟨kind, position, payload⟩]) :=
  rfl

theorem on_emit (kind : Kind) (payload : Option Payload) (queue : List Token) :
    (emit position kind payload).on queue = (.ok (), queue ++ [⟨kind, position, payload⟩]) :=
  rfl

theorem on_liftM_bind {α : Type} (a : Except Cause α) (x : α → Queueing Unit) (queue : List Token) :
    on (liftM a >>= x) queue =
      match a with
      | .ok a => (x a).on queue
      | .error cause => (.error cause, queue) := by
  cases a <;> rfl

theorem on_withOperand (m : Mnemonic) (rest : Text) (queue : List Token) :
    (withOperand position m rest).on queue =
      match Operand.parse rest with
      | .ok operand =>
        (.ok (), queue ++ ⟨.instruction m, position, none⟩ ::
          (Statement.operandShape operand).map fun (kind, payload) => ⟨kind, position, payload⟩)
      | .error cause => (.error cause, queue ++ [⟨.instruction m, position, none⟩]) := by
  rw [withOperand, on_emit_bind, on_liftM_bind]
  cases Operand.parse rest with
  | error cause => rfl
  | ok operand =>
    cases operand with
    | name name? =>
      dsimp only
      rw [on_emit, List.append_assoc]
      rfl
    | literal ty text =>
      dsimp only
      rw [on_emit_bind, on_emit, List.append_assoc, List.append_assoc]
      rfl

theorem on_instruction (rest : Text) (m : Mnemonic) (queue : List Token) :
    (instruction position rest m).on queue =
      outcome position (residue position m) queue (Statement.parseRest rest m) := by
  cases m with
  | push =>
    rw [instruction, on_withOperand, Statement.parseRest]
    cases Operand.parse rest <;> rfl
  | pushd =>
    rw [instruction, on_withOperand, Statement.parseRest]
    cases Operand.parse rest <;> rfl
  | arith op => rfl
  | pop =>
    rw [instruction, Statement.parseRest, on_emit_bind]
    split
    next =>
      rw [on_emit, List.append_assoc]
      rfl
    next =>
      rw [emitName, on_emit, List.append_assoc]
      rfl
  | drop =>
    rw [instruction, Statement.parseRest, on_emit_bind, emitName, on_emit, List.append_assoc]
    rfl
  | var =>
    rw [instruction, Statement.parseRest, Statement.parseVar, on_emit_bind, on_liftM_bind]
    cases Operand.parse rest with
    | error cause => rfl
    | ok operand =>
      cases operand with
      | name name? => rfl
      | literal ty name =>
        dsimp only
        rw [on_emit_bind, on_emit, List.append_assoc, List.append_assoc]
        rfl
  | move =>
    rw [instruction, Statement.parseRest, Statement.parseMove]
    cases rest.cut? Text.isBlank with
    | none =>
      exact congrArg _ (List.append_nil queue).symm
    | some parts =>
      obtain ⟨name, text⟩ := parts
      dsimp only
      split
      next => exact congrArg _ (List.append_nil queue).symm
      next =>
        rw [on_emit_bind, on_emit_bind, on_emit, List.append_assoc, List.append_assoc]
        rfl
  | print =>
    rw [instruction, Statement.parseRest]
    split
    next => rfl
    next =>
      rw [on_emit_bind, on_emit, List.append_assoc]
      rfl

theorem on_line (line : Line) (queue : List Token) :
    (Queueing.line line).on queue =
      outcome line.position (residueOfLine line) queue line.parse := by
  unfold Queueing.line residueOfLine Line.parse Statement.parse
  cases Mnemonic.split? line.trimmed with
  | none => exact congrArg _ (List.append_nil queue).symm
  | some found => exact on_instruction found.2 found.1 queue

end Queueing

namespace Reader

/--
The line that a reader takes next.
-/
def nextLine (reader : Reader) : Line :=
  ⟨reader.number + 1, reader.offset, (Source.cutLine reader.rest).1⟩

/--
The reader behind its next line.
-/
def behindLine (reader : Reader) : Reader :=
  { reader with
    rest := (Source.cutLine reader.rest).2
    offset := reader.offset + reader.nextLine.text.byteLength
    number := reader.nextLine.number }

theorem nextLine_of_cons {reader : Reader} {c : Char} {t : Text} (h : reader.rest = c :: t) :
    reader.nextLine = ⟨reader.number + 1, reader.offset, (Source.cutLine (c :: t)).1⟩ := by
  rw [nextLine, h]

theorem behindLine_of_cons {reader : Reader} {c : Char} {t : Text} (h : reader.rest = c :: t) :
    reader.behindLine = { reader with
      rest := (Source.cutLine (c :: t)).2
      offset := reader.offset + (Source.cutLine (c :: t)).1.byteLength
      number := reader.number + 1 } := by
  rw [behindLine, nextLine, h]

theorem length_rest_behindLine {reader : Reader} (h : reader.rest ≠ []) :
    reader.behindLine.rest.length < reader.rest.length := by
  obtain ⟨c, t, hrest⟩ := List.exists_cons_of_ne_nil h
  rw [behindLine, hrest]
  exact Nat.lt_succ_of_le (Source.length_cutLine_le c t)

def clear (reader : Reader) : Reader :=
  { reader with pending := [] }

theorem clear_of_pending {reader : Reader} (h : reader.pending = []) : reader.clear = reader := by
  rw [clear, ← h]

/--
The next answer of a reader that queues the tokens of a line as it reads them.
-/
def nextQueued (reader : Reader) : Option (Except Fault Token) × Reader :=
  match reader.pending with
  | token :: pending => (some (.ok token), { reader with pending })
  | [] =>
    if reader.finished then
      (none, reader)
    else if _hrest : reader.rest = [] then
      (some (.ok reader.endToken), { reader with finished := true })
    else if reader.nextLine.isBlank then
      nextQueued reader.behindLine
    else
      match (Queueing.line reader.nextLine).on reader.behindLine.pending with
      | (.ok (), pending) => nextQueued { reader.behindLine with pending }
      | (.error cause, pending) =>
        (some (.error (.located reader.nextLine.position cause)),
          clear { reader.behindLine with pending, finished := true })
termination_by reader.rest.length
decreasing_by
  all_goals exact length_rest_behindLine _hrest

section NextLine

variable {reader : Reader} (hpending : reader.pending = []) (hfinished : ¬reader.finished)
  (hrest : reader.rest ≠ [])
include hpending hfinished hrest

theorem nextQueued_of_isBlank (hblank : reader.nextLine.isBlank) :
    reader.nextQueued = reader.behindLine.nextQueued := by
  conv => lhs; unfold nextQueued
  rw [hpending]
  dsimp only
  rw [if_neg hfinished, dif_neg hrest, if_pos hblank]

theorem nextQueued_of_parse {s : Statement} (hblank : ¬reader.nextLine.isBlank)
    (hparse : reader.nextLine.parse = .ok s) :
    reader.nextQueued =
      nextQueued { reader.behindLine with pending := s.tokens reader.nextLine.position } := by
  have hon : (Queueing.line reader.nextLine).on reader.behindLine.pending =
      (.ok (), s.tokens reader.nextLine.position) := by
    rw [Queueing.on_line, hparse]
    exact congrArg _ (congrArg (· ++ _) hpending)
  conv => lhs; unfold nextQueued
  rw [hpending]
  dsimp only
  rw [if_neg hfinished, dif_neg hrest, if_neg hblank, hon]

theorem nextQueued_of_parse_error {cause : Cause} (hblank : ¬reader.nextLine.isBlank)
    (hparse : reader.nextLine.parse = .error cause) :
    reader.nextQueued =
      (some (.error (.located reader.nextLine.position cause)),
        clear { reader.behindLine with finished := true }) := by
  have hon : (Queueing.line reader.nextLine).on reader.behindLine.pending =
      (.error cause, reader.behindLine.pending ++ Queueing.residueOfLine reader.nextLine) := by
    rw [Queueing.on_line, hparse]
    rfl
  unfold nextQueued
  rw [hpending]
  dsimp only
  rw [if_neg hfinished, dif_neg hrest, if_neg hblank, hon]
  rfl

end NextLine

/--
Queueing is not seen from outside: a reader gives the same answer and is in the same state after it.
-/
theorem nextQueued_eq_next (reader : Reader) : reader.nextQueued = reader.next := by
  fun_induction next reader with
  | case1 reader token pending hpending =>
    unfold nextQueued
    rw [hpending]
  | case2 reader hpending hfinished =>
    unfold nextQueued
    rw [hpending]
    exact if_pos hfinished
  | case3 reader hpending hfinished hrest =>
    unfold nextQueued
    rw [hpending]
    exact (if_neg hfinished).trans (dif_pos hrest)
  | case4 reader hpending hfinished c t hrest line reader' hblank ih =>
    have hline : reader.nextLine = line := nextLine_of_cons hrest
    have hreader : reader.behindLine = reader' := behindLine_of_cons hrest
    rw [← hline] at hblank
    rw [nextQueued_of_isBlank hpending hfinished (by simp [hrest]) hblank, hreader, ih]
  | case5 reader hpending hfinished c t hrest line reader' hblank s hparse ih =>
    have hline : reader.nextLine = line := nextLine_of_cons hrest
    have hreader : reader.behindLine = reader' := behindLine_of_cons hrest
    rw [← hline] at hblank hparse
    rw [nextQueued_of_parse hpending hfinished (by simp [hrest]) hblank hparse, hreader, hline, ih]
  | case6 reader hpending hfinished c t hrest line reader' hblank cause hparse =>
    have hline : reader.nextLine = line := nextLine_of_cons hrest
    have hreader : reader.behindLine = reader' := behindLine_of_cons hrest
    rw [← hline] at hblank hparse
    rw [nextQueued_of_parse_error hpending hfinished (by simp [hrest]) hblank hparse, hreader,
      hline]
    exact congrArg (Prod.mk _) (clear_of_pending hpending)

end Reader
end Stackline
