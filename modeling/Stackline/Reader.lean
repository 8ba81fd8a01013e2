import Stackline.Source

/-!
Reading a source token by token. A reader takes a line only when the tokens of the lines before it
have been handed out, and it stops at the first malformed line.
-/

namespace Stackline

/--
Cut the first line off a text, with its newline if it has one.
-/
def Source.cutLine : Text → Text × Text
  | [] => ([], [])
  | c :: t =>
    if c = '\n' then ([c], t)
    else
      let (line, rest) := cutLine t
      (c :: line, rest)

theorem Source.length_cutLine_le (c : Char) (t : Text) : (cutLine (c :: t)).2.length ≤ t.length := by
  induction t generalizing c with
  | nil =>
    unfold cutLine
    split <;> simp [cutLine]
  | cons d t ih =>
    unfold cutLine
    split
    · simp
    · have := ih d
      simp only [List.length_cons]
      omega

structure Reader where
  whole : Text
  /-- What has not been read. -/
  rest : Text
  /-- The number of bytes that have been read. -/
  offset : Nat
  /-- The number of lines that have been read. -/
  number : Nat
  /-- The tokens of the last line that have not been handed out. -/
  pending : List Token
  finished : Bool
  deriving Repr, DecidableEq

namespace Reader

def start (source : Text) : Reader :=
  ⟨source, source, 0, 0, [], false⟩

/--
The token behind the lines that have been read.
-/
def endToken (reader : Reader) : Token :=
  ⟨.eof, ⟨reader.number, ⟨reader.whole.byteLength, 0⟩⟩, none⟩

/--
The next token, or the fault of a malformed line, or nothing when the reader has finished.
-/
def next (reader : Reader) : Option (Except Fault Token) × Reader :=
  match reader.pending with
  | token :: pending => (some (.ok token), { reader with pending })
  | [] =>
    if reader.finished then
      (none, reader)
    else
      match _hrest : reader.rest with
      | [] => (some (.ok reader.endToken), { reader with finished := true })
      | c :: t =>
        let line : Line := ⟨reader.number + 1, reader.offset, (Source.cutLine (c :: t)).1⟩
        let reader' := { reader with
          rest := (Source.cutLine (c :: t)).2
          offset := reader.offset + line.text.byteLength
          number := line.number }
        if line.isBlank then
          next reader'
        else
          match line.parse with
          | .ok s => next { reader' with pending := s.tokens line.position }
          | .error cause =>
            (some (.error (.located line.position cause)), { reader' with finished := true })
termination_by reader.rest.length
decreasing_by
  all_goals
    have := Source.length_cutLine_le c t
    simp only [_hrest, List.length_cons]
    omega

/--
The answer to one of the calls of `next`, the first of which has the index zero.
-/
def answer : (index : Nat) → Reader → Option (Except Fault Token)
  | 0, reader => reader.next.1
  | index + 1, reader => answer index reader.next.2

end Reader
end Stackline
