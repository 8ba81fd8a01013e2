import Stackline.Text.Basic

/-!
Whole numbers: their decimal text, and the 64-bit words that hold those of them that values can
have. Main statements: reading undoes writing, and a number fits exactly one word or none.
-/

namespace Stackline
namespace Integer

/--
Take an optional sign off a text; `true` stands for a minus.
-/
def splitSign : Text → Bool × Text
  | '-' :: t => (true, t)
  | '+' :: t => (false, t)
  | t => (false, t)

/--
Whether a text consists of ASCII digits, at least one.
-/
def isNumeral (t : Text) : Bool :=
  !t.isEmpty && t.all Char.isDigit

/--
The number that a numeral denotes.
-/
def ofNumeral (t : Text) : Nat :=
  Nat.ofDigitChars 10 t 0

/--
A whole number is a numeral behind at most one sign.
-/
def read? (t : Text) : Option Int :=
  match splitSign t with
  | (negative, digits) =>
    if isNumeral digits then
      some (if negative then -(ofNumeral digits : Int) else ofNumeral digits)
    else
      none

/--
The shortest numeral of a number, behind a minus for the negative ones.
-/
def text (n : Int) : Text :=
  if n < 0 then '-' :: Nat.toDigits 10 n.natAbs else Nat.toDigits 10 n.natAbs

theorem isNumeral_iff {t : Text} : isNumeral t ↔ t ≠ [] ∧ ∀ c ∈ t, c.isDigit := by
  simp [isNumeral]

theorem isNumeral_toDigits (n : Nat) : isNumeral (Nat.toDigits 10 n) := by
  rw [isNumeral_iff]
  exact ⟨Nat.toDigits_ne_nil, fun c hc => Nat.isDigit_of_mem_toDigits (by decide) (by decide) hc⟩

theorem not_mem_toDigits {c : Char} (hc : c.isDigit = false) (n : Nat) :
    c ∉ Nat.toDigits 10 n := by
  intro h
  have hdigit := Nat.isDigit_of_mem_toDigits (by decide) (by decide) h
  rw [hc] at hdigit
  cases hdigit

@[simp]
theorem ofNumeral_toDigits (n : Nat) : ofNumeral (Nat.toDigits 10 n) = n := by
  simp [ofNumeral]

theorem splitSign_of_isNumeral {t : Text} (h : isNumeral t) : splitSign t = (false, t) := by
  rw [isNumeral_iff] at h
  unfold splitSign
  split
  next t => exact absurd (h.2 '-' (by simp)) (by decide)
  next t => exact absurd (h.2 '+' (by simp)) (by decide)
  next => rfl

theorem mem_splitSign {t : Text} {c : Char} (hminus : c ≠ '-') (hplus : c ≠ '+') (h : c ∈ t) :
    c ∈ (splitSign t).2 := by
  unfold splitSign
  split
  next => exact List.mem_of_ne_of_mem hminus h
  next => exact List.mem_of_ne_of_mem hplus h
  next => exact h

theorem read?_of_mem {t : Text} {c : Char} (hminus : c ≠ '-') (hplus : c ≠ '+')
    (hdigit : c.isDigit = false) (h : c ∈ t) : read? t = none := by
  have hmem := mem_splitSign hminus hplus h
  apply if_neg
  intro hnumeral
  rw [(isNumeral_iff.1 hnumeral).2 c hmem] at hdigit
  cases hdigit

theorem read?_of_point_mem {t : Text} (h : '.' ∈ t) : read? t = none :=
  read?_of_mem (by decide) (by decide) (by decide) h

/--
Reading undoes writing.
-/
theorem read?_text (n : Int) : read? (text n) = some n := by
  unfold text
  split
  next h =>
    have hn : -(n.natAbs : Int) = n := by omega
    simp only [read?, splitSign, isNumeral_toDigits, ofNumeral_toDigits, if_true, hn]
  next h =>
    have hn : (n.natAbs : Int) = n := by omega
    rw [read?, splitSign_of_isNumeral (isNumeral_toDigits _)]
    simp only [isNumeral_toDigits, ofNumeral_toDigits, if_true, Bool.false_eq_true, if_false, hn]

/--
Words hold the numbers from `-limit` up to `limit`, which they do not hold themselves.
-/
def limit : Int :=
  0x8000000000000000

/--
The 64-bit word that holds a number.
-/
def fit? (n : Int) : Option Int64 :=
  if -limit ≤ n ∧ n < limit then some (Int64.ofInt n) else none

theorem le_toInt (w : Int64) : -limit ≤ w.toInt :=
  Int64.le_toInt w

theorem toInt_lt (w : Int64) : w.toInt < limit :=
  Int64.toInt_lt w

theorem fit?_eq_some_iff {n : Int} {w : Int64} : fit? n = some w ↔ w.toInt = n := by
  unfold fit?
  split
  next h =>
    constructor
    · rintro ⟨⟩
      exact Int64.toInt_ofInt_of_le h.1 h.2
    · rintro rfl
      rw [Int64.ofInt_toInt]
  next h =>
    simp only [reduceCtorEq, false_iff]
    rintro rfl
    exact h ⟨le_toInt w, toInt_lt w⟩

theorem fit?_eq_none_iff {n : Int} : fit? n = none ↔ n < -limit ∨ limit ≤ n := by
  unfold fit?
  split
  next h =>
    simp only [reduceCtorEq, false_iff]
    omega
  next h =>
    simp only [true_iff]
    omega

@[simp]
theorem fit?_toInt (w : Int64) : fit? w.toInt = some w :=
  fit?_eq_some_iff.2 rfl

end Integer
end Stackline
