import Stackline.Text.Quoted

/-!
Quoted text can be read back, whatever stands behind it, as no escape begins like another one or
like the closing quote.
-/

namespace Stackline
namespace Text

/--
What comes next for a reader of quoted text.
-/
inductive Reading where
  | plain
  /-- The letter behind a backslash. -/
  | letter
  /-- The brace in front of a code point. -/
  | brace
  /-- A further digit of a code point, or the brace behind it. -/
  | digit (value : Nat)

/--
The character that a letter stands for behind a backslash.
-/
def ofLetter? : Char → Option Char
  | '0' => some '\x00'
  | 't' => some '\t'
  | 'n' => some '\n'
  | 'r' => some '\r'
  | '"' => some '"'
  | '\\' => some '\\'
  | _ => none

/--
The value of a hexadecimal digit.
-/
def hexValue (c : Char) : Nat :=
  if c.isDigit then c.toNat - '0'.toNat else c.toNat - 'a'.toNat + 10

/--
The text in front of a closing quote, and what stands behind the quote.
-/
def readQuoted? : Reading → Text → Option (Text × Text)
  | _, [] => none
  | .plain, c :: rest =>
    if c = '"' then some ([], rest)
    else if c = '\\' then readQuoted? .letter rest
    else (readQuoted? .plain rest).map fun parts => (c :: parts.1, parts.2)
  | .letter, c :: rest =>
    if c = 'u' then readQuoted? .brace rest
    else (ofLetter? c).bind fun d =>
      (readQuoted? .plain rest).map fun parts => (d :: parts.1, parts.2)
  | .brace, c :: rest => if c = '{' then readQuoted? (.digit 0) rest else none
  | .digit value, c :: rest =>
    if c = '}' then
      (readQuoted? .plain rest).map fun parts => (Char.ofNat value :: parts.1, parts.2)
    else
      readQuoted? (.digit (16 * value + hexValue c)) rest

theorem digitChar_ne_brace {d : Nat} (h : d < 16) : d.digitChar ≠ '}' := by
  have hdigits : ∀ d : Fin 16, d.val.digitChar ≠ '}' := by decide
  exact hdigits ⟨d, h⟩

theorem hexValue_digitChar {d : Nat} (h : d < 16) : hexValue d.digitChar = d := by
  have hdigits : ∀ d : Fin 16, hexValue d.val.digitChar = d.val := by decide
  exact hdigits ⟨d, h⟩

theorem readQuoted?_digitChar {d : Nat} (h : d < 16) (value : Nat) (rest : Text) :
    readQuoted? (.digit value) (d.digitChar :: rest) =
      readQuoted? (.digit (16 * value + d)) rest := by
  rw [readQuoted?, if_neg (digitChar_ne_brace h), hexValue_digitChar h]

/--
The digits come from the left, so the number without its last digit is read first.
-/
theorem readQuoted?_toDigits (n : Nat) (rest : Text) :
    readQuoted? (.digit 0) (Nat.toDigits 16 n ++ rest) = readQuoted? (.digit n) rest := by
  induction n using Nat.strongRecOn generalizing rest with
  | ind n ih =>
    rcases Nat.lt_or_ge n 16 with hlt | hge
    · rw [Nat.toDigits_of_lt_base hlt, List.singleton_append, readQuoted?_digitChar hlt]
      simp
    · have hless : n / 16 < n := by omega
      have hdigit : n % 16 < 16 := by omega
      have hvalue : 16 * (n / 16) + n % 16 = n := by omega
      rw [Nat.toDigits_of_base_le (by decide) hge, List.append_assoc, ih _ hless,
        List.singleton_append, readQuoted?_digitChar hdigit, hvalue]

theorem readQuoted?_escape (c : Char) (rest : Text) :
    readQuoted? .plain (escape c ++ rest) =
      (readQuoted? .plain rest).map fun parts => (c :: parts.1, parts.2) := by
  unfold escape
  split
  case h_7 hquote hbackslash =>
    split
    · have hcode : readQuoted? .plain ('\\' :: 'u' :: '{' :: (Nat.toDigits 16 c.toNat ++
          '}' :: rest)) = readQuoted? (.digit c.toNat) ('}' :: rest) := by
        simp [readQuoted?, readQuoted?_toDigits]
      simp only [List.cons_append, List.append_assoc, List.nil_append, hcode]
      rw [readQuoted?, if_pos rfl, Char.ofNat_toNat]
    · rw [List.singleton_append, readQuoted?, if_neg hquote, if_neg hbackslash]
  all_goals simp [readQuoted?, ofLetter?]

theorem readQuoted?_flatMap_escape (t rest : Text) :
    readQuoted? .plain (t.flatMap escape ++ '"' :: rest) = some (t, rest) := by
  induction t with
  | nil => simp [readQuoted?]
  | cons c t ih =>
    rw [List.flatMap_cons, List.append_assoc, readQuoted?_escape, ih]
    rfl

theorem quoted_injective {s t : Text} (h : quoted s = quoted t) : s = t := by
  have hbodies : s.flatMap escape ++ ['"'] = t.flatMap escape ++ ['"'] := (List.cons.inj h).2
  have hread := readQuoted?_flatMap_escape s []
  rw [hbodies, readQuoted?_flatMap_escape] at hread
  simpa using hread.symm

end Text
end Stackline
