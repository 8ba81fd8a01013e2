import Stackline.Proofs.Arithmetic
import Stackline.Proofs.Faults
import Stackline.Proofs.Interpolation

/-!
Literals and the texts of values. `Integer.Denotes` says which whole number a text stands for, and
`Integer.read?_eq_some_iff` that it is the one that is read. Main statement: an integer literal has
a value exactly if it denotes a number of its type, and reading undoes the display of a value.
-/

namespace Stackline

namespace Integer

/--
The number of a row of digits, of which the first counts most.
-/
def decimal (digits : Text) : Nat :=
  Nat.ofDigits 10 (digits.reverse.map fun c => c.toNat - '0'.toNat)

/--
A text denotes a whole number if it is a row of digits behind at most one sign.
-/
inductive Denotes : Text → Int → Prop where
  | unsigned {digits : Text} (hne : digits ≠ []) (hdigits : ∀ c ∈ digits, c.isDigit) :
    Denotes digits (decimal digits)
  | plus {digits : Text} (hne : digits ≠ []) (hdigits : ∀ c ∈ digits, c.isDigit) :
    Denotes ('+' :: digits) (decimal digits)
  | minus {digits : Text} (hne : digits ≠ []) (hdigits : ∀ c ∈ digits, c.isDigit) :
    Denotes ('-' :: digits) (-decimal digits)

theorem ofNumeral_eq_decimal (digits : Text) : ofNumeral digits = decimal digits := by
  rw [ofNumeral, Nat.ofDigitChars, List.foldl_eq_foldr_reverse]
  rw [decimal, Nat.ofDigits_eq_foldr, List.foldr_map]
  simp only [Nat.cast_id, Nat.add_comm]

theorem splitSign_cases (t : Text) :
    splitSign t = (false, t) ∨
      ∃ digits, t = '+' :: digits ∧ splitSign t = (false, digits) ∨
        t = '-' :: digits ∧ splitSign t = (true, digits) := by
  unfold splitSign
  split
  next digits => exact .inr ⟨digits, .inr ⟨rfl, rfl⟩⟩
  next digits => exact .inr ⟨digits, .inl ⟨rfl, rfl⟩⟩
  next => exact .inl rfl

theorem read?_eq_some_iff_of_splitSign {t digits : Text} {negative : Bool}
    (h : splitSign t = (negative, digits)) {n : Int} :
    read? t = some n ↔
      (digits ≠ [] ∧ ∀ c ∈ digits, c.isDigit) ∧
        (if negative then -(decimal digits : Int) else decimal digits) = n := by
  rw [← isNumeral_iff, ← ofNumeral_eq_decimal]
  unfold read?
  rw [h]
  by_cases hnumeral : isNumeral digits <;> simp [hnumeral]

theorem read?_eq_some_iff {t : Text} {n : Int} : read? t = some n ↔ Denotes t n := by
  constructor
  · intro h
    rcases splitSign_cases t with hsign | ⟨digits, ⟨rfl, hsign⟩ | ⟨rfl, hsign⟩⟩
    · obtain ⟨⟨hne, hdigits⟩, rfl⟩ := (read?_eq_some_iff_of_splitSign hsign).1 h
      exact .unsigned hne hdigits
    · obtain ⟨⟨hne, hdigits⟩, rfl⟩ := (read?_eq_some_iff_of_splitSign hsign).1 h
      exact .plus hne hdigits
    · obtain ⟨⟨hne, hdigits⟩, rfl⟩ := (read?_eq_some_iff_of_splitSign hsign).1 h
      exact .minus hne hdigits
  · intro h
    cases h with
    | unsigned hne hdigits =>
      have hsign := splitSign_of_isNumeral (isNumeral_iff.2 ⟨hne, hdigits⟩)
      exact (read?_eq_some_iff_of_splitSign hsign).2 ⟨⟨hne, hdigits⟩, rfl⟩
    | @plus digits hne hdigits =>
      have hsign : splitSign ('+' :: digits) = (false, digits) := rfl
      exact (read?_eq_some_iff_of_splitSign hsign).2 ⟨⟨hne, hdigits⟩, rfl⟩
    | @minus digits hne hdigits =>
      have hsign : splitSign ('-' :: digits) = (true, digits) := rfl
      exact (read?_eq_some_iff_of_splitSign hsign).2 ⟨⟨hne, hdigits⟩, rfl⟩

end Integer

namespace Literal

variable {scope : Scope} {text : Text}

theorem read_int_eq_ok_iff {value : Value} :
    read scope .int text = .ok value ↔
      ∃ w : Int64, Integer.Denotes text w.toInt ∧ .int w = value := by
  rw [read, Result.map_eq_ok_iff]
  simp only [readInt_eq_ok_iff, Integer.read?_eq_some_iff]

theorem read_uint_eq_ok_iff {value : Value} :
    read scope .uint text = .ok value ↔
      ∃ w : Int64, Integer.Denotes text w.toInt ∧ 0 ≤ w.toInt ∧ .int w = value := by
  rw [read, Result.bind_eq_ok_iff]
  simp only [readInt_eq_ok_iff, Integer.read?_eq_some_iff]
  apply exists_congr
  intro w
  apply and_congr_right
  intro hdenotes
  rw [← Int64.toInt_zero, ← Int64.le_iff_toInt_le, ← Int64.not_lt]
  by_cases h : w < 0 <;> simp [h, pure, Except.pure, throw, throwThe, MonadExceptOf.throw]

theorem exists_read_int_iff {n : Int} :
    (∃ w : Int64, w.toInt = n ∧ read scope .int text = .ok (.int w)) ↔
      Integer.Denotes text n ∧ Integer.Representable n := by
  rw [← Integer.exists_toInt_iff]
  constructor
  · rintro ⟨w, rfl, hread⟩
    obtain ⟨_, hdenotes, ⟨⟩⟩ := read_int_eq_ok_iff.1 hread
    exact ⟨hdenotes, w, rfl⟩
  · rintro ⟨hdenotes, w, rfl⟩
    exact ⟨w, rfl, read_int_eq_ok_iff.2 ⟨w, hdenotes, rfl⟩⟩

theorem exists_read_uint_iff {n : Int} :
    (∃ w : Int64, w.toInt = n ∧ read scope .uint text = .ok (.int w)) ↔
      (Integer.Denotes text n ∧ Integer.Representable n) ∧ 0 ≤ n := by
  rw [← Integer.exists_toInt_iff]
  constructor
  · rintro ⟨w, rfl, hread⟩
    obtain ⟨_, hdenotes, hle, ⟨⟩⟩ := read_uint_eq_ok_iff.1 hread
    exact ⟨⟨hdenotes, w, rfl⟩, hle⟩
  · rintro ⟨⟨hdenotes, w, rfl⟩, hle⟩
    exact ⟨w, rfl, read_uint_eq_ok_iff.2 ⟨w, hdenotes, hle, rfl⟩⟩

theorem category_of_read_int {cause : Cause} (h : read scope .int text = .error cause) :
    cause.category = .typeMismatch := by
  rw [eq_of_readInt_eq_error (Result.map_eq_error_iff.1 h)]
  rfl

theorem category_of_read_uint {cause : Cause} (h : read scope .uint text = .error cause) :
    cause.category = .typeMismatch := by
  rcases Result.bind_eq_error_iff.1 h with h | ⟨w, -, h⟩
  · rw [eq_of_readInt_eq_error h]
    rfl
  · split at h
    next =>
      cases h
      rfl
    next => cases h

theorem denotes_display (w : Int64) : Integer.Denotes (Value.int w).display w.toInt :=
  Integer.read?_eq_some_iff.1 (Integer.read?_text w.toInt)

/--
An integer literal has a value exactly if it denotes a number that a word holds, and that is not
negative for an unsigned type; any other text does not match the type. Reading undoes the display
of integers and of bools, and that of strings without a hole once they are quoted.
-/
theorem read_exact_and_undoes_display (scope : Scope) :
    (∀ text : Text,
      (∀ n : Int,
        ((∃ w : Int64, w.toInt = n ∧ read scope .int text = .ok (.int w)) ↔
          Integer.Denotes text n ∧ Integer.Representable n) ∧
        ((∃ w : Int64, w.toInt = n ∧ read scope .uint text = .ok (.int w)) ↔
          (Integer.Denotes text n ∧ Integer.Representable n) ∧ 0 ≤ n)) ∧
      ((¬ ∃ n, Integer.Denotes text n ∧ Integer.Representable n) →
        ∃ cause, read scope .int text = .error cause ∧ cause.category = .typeMismatch) ∧
      ((¬ ∃ n, (Integer.Denotes text n ∧ Integer.Representable n) ∧ 0 ≤ n) →
        ∃ cause, read scope .uint text = .error cause ∧ cause.category = .typeMismatch) ∧
      readInt text = readWord text) ∧
    (∀ w : Int64,
      read scope .int (Value.int w).display = .ok (.int w) ∧
        (0 ≤ w → read scope .uint (Value.int w).display = .ok (.int w))) ∧
    (∀ b : Bool, read scope .bool (Value.bool b).display = .ok (.bool b)) ∧
    ∀ s : Text, ¬ s.Holed → read scope .string ('"' :: s ++ ['"']) = .ok (.str s) := by
  refine ⟨?_, ?_, ?_, ?_⟩
  · intro text
    refine ⟨?_, ?_, ?_, readInt_eq_readWord text⟩
    · intro n
      exact ⟨exists_read_int_iff, exists_read_uint_iff⟩
    · intro h
      cases hread : read scope .int text with
      | error cause => exact ⟨cause, rfl, category_of_read_int hread⟩
      | ok value =>
        obtain ⟨w, hw, -⟩ := read_int_eq_ok_iff.1 hread
        exact absurd ⟨w.toInt, hw, Integer.representable_toInt w⟩ h
    · intro h
      cases hread : read scope .uint text with
      | error cause => exact ⟨cause, rfl, category_of_read_uint hread⟩
      | ok value =>
        obtain ⟨w, hw, hle, -⟩ := read_uint_eq_ok_iff.1 hread
        exact absurd ⟨w.toInt, ⟨hw, Integer.representable_toInt w⟩, hle⟩ h
  · intro w
    constructor
    · exact read_int_eq_ok_iff.2 ⟨w, denotes_display w, rfl⟩
    · intro h
      exact read_uint_eq_ok_iff.2 ⟨w, denotes_display w, Int64.le_iff_toInt_le.1 h, rfl⟩
  · intro b
    cases b <;> rfl
  · intro s hs
    exact read_of_not_holed scope hs

theorem read_exact_and_undoes_display_least :
    let text := "-0009223372036854775808".toList
    Integer.Denotes text (-2 ^ 63) ∧
      (∃ w : Int64, w.toInt = -2 ^ 63 ∧ read [] .int text = .ok (.int w)) ∧
      (∃ cause, read [] .uint text = .error cause ∧ cause.category = .typeMismatch) ∧
      ¬ Text.Holed ['"', '$', '{', '"'] ∧
      read [] .string ['"', '"', '$', '{', '"', '"'] = .ok (.str ['"', '$', '{', '"']) := by
  intro text
  obtain ⟨hexact, -, -, hstring⟩ := read_exact_and_undoes_display []
  obtain ⟨hread, -, hmismatch, -⟩ := hexact text
  have hread? : Integer.read? text = some (-2 ^ 63) := by
    decide
  have hdenotes := Integer.read?_eq_some_iff.1 hread?
  refine ⟨hdenotes, (hread _).1.2 ⟨hdenotes, by decide⟩, hmismatch ?_, ?_⟩
  · rintro ⟨n, ⟨hn, -⟩, hle⟩
    have heq : -2 ^ 63 = n := Option.some.inj (hread?.symm.trans (Integer.read?_eq_some_iff.2 hn))
    omega
  · have hholed : ¬ Text.Holed ['"', '$', '{', '"'] := by
      intro h
      exact absurd h.mem (by decide)
    exact ⟨hholed, hstring _ hholed⟩

end Literal
end Stackline
