import Stackline.Statement.Parse

/-!
Sources: their lines, the places of these, and the tokens of a whole program.
-/

namespace Stackline

/--
A line of a source, with its newline if it has one.
-/
structure Line where
  /-- Counted from one. -/
  number : Nat
  /-- The number of bytes before the line. -/
  offset : Nat
  text : Text
  deriving Repr, DecidableEq

namespace Line

def trimmed (line : Line) : Text :=
  Text.trim line.text

def isBlank (line : Line) : Bool :=
  line.trimmed.isEmpty

/--
The place of the trimmed text of a line.
-/
def position (line : Line) : Position :=
  ⟨line.number, ⟨line.offset + Text.byteLength (Text.indent line.text),
    Text.byteLength line.trimmed⟩⟩

def parse (line : Line) : Except Cause Statement :=
  Statement.parse line.trimmed

end Line

namespace Source

/--
Cut a text behind each newline. There is no empty line at the end.
-/
def cutLines (source : Text) : List Text :=
  source.foldr extend []
where
  /-- Put a character before the first of the lines that follow it. -/
  extend (c : Char) : List Text → List Text
    | [] => [[c]]
    | line :: rest => if c = '\n' then [c] :: line :: rest else (c :: line) :: rest

/--
Number lines from `number` on and place them behind `offset` bytes.
-/
def locate (number offset : Nat) : List Text → List Line
  | [] => []
  | text :: rest => ⟨number, offset, text⟩ :: locate (number + 1) (offset + text.byteLength) rest

def lines (source : Text) : List Line :=
  locate 1 0 (cutLines source)

theorem flatten_cutLines (source : Text) : (cutLines source).flatten = source := by
  induction source with
  | nil => rfl
  | cons c source ih =>
    simp only [cutLines, List.foldr_cons] at ih ⊢
    generalize source.foldr cutLines.extend [] = lines at ih
    cases lines with
    | nil => simp_all [cutLines.extend]
    | cons line rest =>
      simp only [cutLines.extend]
      split <;> simp_all

/--
Whole lines are cut on their own.
-/
theorem cutLines_newline_append (s t : Text) :
    cutLines (s ++ '\n' :: t) = cutLines (s ++ ['\n']) ++ cutLines t := by
  induction s with
  | nil =>
    simp only [cutLines, List.nil_append, List.foldr_cons, List.foldr_nil]
    cases t.foldr cutLines.extend [] <;> simp [cutLines.extend]
  | cons c s ih =>
    simp only [cutLines, List.cons_append, List.foldr_cons] at ih ⊢
    rw [ih]
    have hne : (s ++ ['\n']).foldr cutLines.extend [] ≠ [] := by
      intro h
      have := flatten_cutLines (s ++ ['\n'])
      simp [cutLines, h] at this
    cases hlines : (s ++ ['\n']).foldr cutLines.extend [] with
    | nil => exact absurd hlines hne
    | cons line rest =>
      simp only [List.cons_append, cutLines.extend]
      split <;> rfl

theorem locate_append (number offset : Nat) (xs ys : List Text) :
    locate number offset (xs ++ ys) =
      locate number offset xs ++
        locate (number + xs.length) (offset + Text.byteLength xs.flatten) ys := by
  induction xs generalizing number offset with
  | nil => simp [locate]
  | cons x xs ih =>
    simp [locate, ih, Nat.add_comm, Nat.add_left_comm, Nat.add_assoc]

/--
The token behind the last line.
-/
def endToken (source : Text) : Token :=
  ⟨.eof, ⟨(lines source).length, ⟨source.byteLength, 0⟩⟩, none⟩

/--
The tokens before the first malformed line, and its fault if there is one. Without a malformed line
the tokens close with one for the end.
-/
def scan (source : Text) : List Token × Option Fault :=
  (lines source).foldr before ([endToken source], none)
where
  /-- Put the tokens of a line before those of the lines that follow it. -/
  before (line : Line) (rest : List Token × Option Fault) : List Token × Option Fault :=
    if line.isBlank then
      rest
    else
      match line.parse with
      | .ok s => (s.tokens line.position ++ rest.1, rest.2)
      | .error cause => ([], some (.located line.position cause))

/--
The tokens of a whole program, if all of its lines are well formed.
-/
def lex (source : Text) : Except Fault (List Token) :=
  match scan source with
  | (tokens, none) => .ok tokens
  | (_, some fault) => .error fault

end Source

/--
The text that shows a list of tokens, one in a line.
-/
def Token.dump (tokens : List Token) : Text :=
  tokens.flatMap fun token => token.display ++ ['\n']

end Stackline
