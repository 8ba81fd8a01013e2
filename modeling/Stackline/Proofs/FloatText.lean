import Mathlib
import Stackline.Proofs.Literal
import Stackline.Proofs.Number.Shortest

/-!
The text of doubles. Main statement: a finite double is written as the decimal chosen for it, in the
layout that its magnitude asks for and behind its sign, and this text is a literal of a float but
never one of an integer.
-/

namespace Stackline

open Decimal (Layout Spells)

theorem Text.isAlpha_of_eqFold {c w : Char} {t word : Text} (h : eqFold (c :: t) (w :: word)) :
    c.isAlpha = w.isAlpha := by
  have hlower : c.toLower = w.toLower := (List.cons.inj (eqFold_iff.1 h)).1
  rw [← Char.isAlpha_toLower_eq_isAlpha c, hlower, Char.isAlpha_toLower_eq_isAlpha]

namespace Double

/--
A text behind an optional minus, with whether it has one and the number that it denotes.
-/
inductive Denotes (layout : Layout) : Text → Bool → ℚ → Prop where
  | unsigned {t : Text} {q : ℚ} (h : Spells layout t q) : Denotes layout t false q
  | minus {t : Text} {q : ℚ} (h : Spells layout t q) : Denotes layout ('-' :: t) true (-q)

theorem Denotes.point_mem {t : Text} {negative : Bool} {q : ℚ}
    (h : Denotes .positional t negative q) : '.' ∈ t := by
  cases h with
  | unsigned h => exact h.point_mem
  | minus h => exact List.mem_cons_of_mem _ h.point_mem

theorem Denotes.e_mem {t : Text} {negative : Bool} {q : ℚ}
    (h : Denotes .scientific t negative q) : 'e' ∈ t := by
  cases h with
  | unsigned h => exact h.e_mem
  | minus h => exact List.mem_cons_of_mem _ h.e_mem

theorem Denotes.e_not_mem {t : Text} {negative : Bool} {q : ℚ}
    (h : Denotes .positional t negative q) : 'e' ∉ t := by
  have hbody : ∀ {body p}, Spells .positional body p → 'e' ∉ body := by
    intro body p h he
    exact absurd (h.isDigit_or_point 'e' he) (by decide)
  cases h with
  | unsigned h => exact hbody h
  | minus h =>
    rw [List.mem_cons, not_or]
    exact ⟨by decide, hbody h⟩

/-!
Writing.
-/

theorem text_of_isFinite {x : Float} (hx : x.isFinite) :
    text x = (if isNegative x then ['-'] else []) ++ magnitude x := by
  obtain ⟨hnan, hinfinite⟩ := isFinite_iff.1 hx
  rw [text, hnan, hinfinite]
  rfl

def layout (x : Float) : Layout :=
  if isExtreme x then .scientific else .positional

theorem spells_magnitude (x : Float) :
    Spells (layout x) (magnitude x) (Binary.ofFloat x).shortest.value := by
  unfold layout magnitude
  cases isExtreme x with
  | true => apply Decimal.spells_scientific
  | false => apply Decimal.spells_positional

theorem denotes_text {x : Float} (hx : x.isFinite) :
    Denotes (layout x) (text x) (isNegative x) (written x) := by
  rw [text_of_isFinite hx, written]
  cases isNegative x with
  | true => exact .minus (spells_magnitude x)
  | false => exact .unsigned (spells_magnitude x)

theorem denotes_scientific_text_iff {x : Float} (hx : x.isFinite) :
    (∃ negative q, Denotes .scientific (text x) negative q) ↔ isExtreme x := by
  have hdenotes := denotes_text hx
  unfold layout at hdenotes
  constructor
  · rintro ⟨negative, q, hscientific⟩
    by_contra h
    rw [if_neg h] at hdenotes
    exact hdenotes.e_not_mem hscientific.e_mem
  · intro h
    rw [if_pos h] at hdenotes
    exact ⟨_, _, hdenotes⟩

theorem point_mem_text {x : Float} (hx : x.isFinite) (h : ¬ isExtreme x) : '.' ∈ text x := by
  have hdenotes := denotes_text hx
  rw [layout, if_neg h] at hdenotes
  exact hdenotes.point_mem

/-!
Reading.
-/

theorem not_isAlpha_of_isDigit {c : Char} (h : c.isDigit) : c.isAlpha = false := by
  rw [← Bool.not_eq_true]
  intro halpha
  simp only [Char.isAlpha, Char.isUpper, Char.isLower, Char.isDigit, Bool.or_eq_true,
    Bool.and_eq_true, decide_eq_true_eq, UInt32.le_iff_toNat_le, Char.reduceVal,
    UInt32.reduceToNat] at h halpha
  omega

/--
Decimals begin with a digit, so they are none of the words.
-/
theorem unsigned?_of_spells {layout : Layout} {t : Text} {q : ℚ} (h : Spells layout t q) :
    ∃ d : Decimal, d.value = q ∧ read?.unsigned? t = some d.toFloat := by
  obtain ⟨d, hread, hvalue⟩ := Decimal.read?_of_spells h
  obtain ⟨lead, rest, rfl, hlead⟩ := h.exists_digit
  have hword {w : Char} (word : Text) (hw : w.isAlpha) :
      Text.eqFold (lead :: rest) (w :: word) = false := by
    rw [← Bool.not_eq_true]
    intro hfold
    rw [← Text.isAlpha_of_eqFold hfold, not_isAlpha_of_isDigit hlead] at hw
    cases hw
  refine ⟨d, hvalue, ?_⟩
  simp [read?.unsigned?, hword, hread]

theorem splitSign_of_spells {layout : Layout} {t : Text} {q : ℚ} (h : Spells layout t q) :
    Integer.splitSign t = (false, t) := by
  obtain ⟨lead, rest, rfl, hlead⟩ := h.exists_digit
  unfold Integer.splitSign
  split
  next heq =>
    obtain ⟨rfl, -⟩ := List.cons.inj heq
    cases hlead
  next heq =>
    obtain ⟨rfl, -⟩ := List.cons.inj heq
    cases hlead
  next => rfl

theorem read?_of_denotes {layout : Layout} {t : Text} {negative : Bool} {q : ℚ}
    (h : Denotes layout t negative q) :
    ∃ d : Decimal, d.value = |q| ∧ read? t = some (if negative then -d.toFloat else d.toFloat) := by
  cases h with
  | unsigned h =>
    obtain ⟨d, rfl, hread⟩ := unsigned?_of_spells h
    refine ⟨d, (abs_of_nonneg d.value_nonneg).symm, ?_⟩
    simp only [read?, splitSign_of_spells h, hread, Option.map_some]
  | minus h =>
    obtain ⟨d, rfl, hread⟩ := unsigned?_of_spells h
    refine ⟨d, ?_, ?_⟩
    · rw [abs_neg, abs_of_nonneg d.value_nonneg]
    · simp only [read?, Integer.splitSign, hread, Option.map_some]

theorem e_or_point_mem_text {x : Float} (hx : x.isFinite) : 'e' ∈ text x ∨ '.' ∈ text x := by
  by_cases h : isExtreme x
  · obtain ⟨negative, q, hdenotes⟩ := (denotes_scientific_text_iff hx).2 h
    exact .inl hdenotes.e_mem
  · exact .inr (point_mem_text hx h)

/--
No text of a double denotes a whole number: a letter or a point gives it away.
-/
theorem integer_read?_text (x : Float) : Integer.read? (text x) = none := by
  cases hnan : x.isNaN with
  | true =>
    have htext : text x = "NaN".toList := if_pos hnan
    rw [htext]
    rfl
  | false =>
    cases hinfinite : x.abs == infinity with
    | true =>
      have htext : text x = (if isNegative x then ['-'] else []) ++ "inf".toList := by
        rw [text, hnan, hinfinite]
        rfl
      apply Integer.read?_of_mem (c := 'i') (by decide) (by decide) (by decide)
      simp [htext]
    | false =>
      rcases e_or_point_mem_text (isFinite_iff.2 ⟨hnan, hinfinite⟩) with he | hpoint
      · exact Integer.read?_of_mem (by decide) (by decide) (by decide) he
      · exact Integer.read?_of_point_mem hpoint

end Double

namespace Literal

theorem read_float_of_read? {scope : Scope} {t : Text} {x : Float} (h : Double.read? t = some x) :
    read scope .float t = .ok (.float x) := by
  simp [read, readFloat, h, Except.map]

theorem read_integer_of_read? (scope : Scope) {t : Text} (h : Integer.read? t = none) :
    read scope .int t = .error (.incompatibleLiteral t) ∧
      read scope .uint t = .error (.incompatibleLiteral t) := by
  have hread : readInt t = .error (.incompatibleLiteral t) := by
    rw [readInt_eq_readWord, readWord_of_read?_eq_none h]
  rw [read, read, hread]
  exact ⟨rfl, rfl⟩

end Literal

namespace Value

open Double

/--
Both layouts of a decimal denote its number. The text of a finite double has its sign and denotes
the number written for it, to which no other double is nearer. It is a literal of a float, with an
exponent exactly at the extremes and with a point elsewhere. No text of a double is a literal of an
integer.
-/
theorem display_float_denotes_and_is_no_integer (scope : Scope) :
    (∀ d : Decimal,
      Spells .positional d.positional d.value ∧ Spells .scientific d.scientific d.value) ∧
    ∀ x : Float,
      (x.isFinite →
        IsNearest (written x) x ∧
        (∃ layout, Denotes layout (float x).display (isNegative x) (written x)) ∧
        ((∃ negative q, Denotes .scientific (float x).display negative q) ↔
          10 ^ 16 ≤ |value x| ∨ 0 < |value x| ∧ |value x| < 1 / 10 ^ 4) ∧
        (¬ (10 ^ 16 ≤ |value x| ∨ 0 < |value x| ∧ |value x| < 1 / 10 ^ 4) →
          '.' ∈ (float x).display) ∧
        ∃ d : Decimal, d.value = |written x| ∧
          Literal.read scope .float (float x).display =
            .ok (.float (if isNegative x then -d.toFloat else d.toFloat))) ∧
      (∃ cause, cause.category = .typeMismatch ∧
        Literal.read scope .int (float x).display = .error cause ∧
        Literal.read scope .uint (float x).display = .error cause) ∧
      ∀ n : Int64, (int n).display ≠ (float x).display := by
  refine ⟨fun d => ⟨d.spells_positional, d.spells_scientific⟩, ?_⟩
  intro x
  have hnone : Integer.read? (float x).display = none := integer_read?_text x
  refine ⟨?_, ⟨_, rfl, Literal.read_integer_of_read? scope hnone⟩, ?_⟩
  · intro hx
    rw [← isExtreme_iff hx]
    refine ⟨isNearest_written hx, ⟨_, denotes_text hx⟩, denotes_scientific_text_iff hx,
      point_mem_text hx, ?_⟩
    obtain ⟨d, hvalue, hread⟩ := read?_of_denotes (denotes_text hx)
    exact ⟨d, hvalue, Literal.read_float_of_read? hread⟩
  · intro n h
    rw [← h, Integer.read?_eq_some_iff.2 (Literal.denotes_display n)] at hnone
    cases hnone

theorem display_float_denotes_and_is_no_integer_huge :
    (float 1e22).display = "1e+22".toList ∧
      (∃ negative q, Denotes .scientific "1e+22".toList negative q) ∧
      (float (-0.0)).display = "-0.0".toList ∧
      (∃ layout, Denotes layout "-0.0".toList true (written (-0.0))) ∧
      ∀ n : Int64, (int n).display ≠ "-0.0".toList := by
  obtain ⟨-, hfloat⟩ := display_float_denotes_and_is_no_integer []
  obtain ⟨hhuge, -⟩ := hfloat 1e22
  obtain ⟨hzero, -, hint⟩ := hfloat (-0.0)
  obtain ⟨-, -, hexponent, -⟩ := hhuge (by decide)
  obtain ⟨-, hsign, -⟩ := hzero (by decide)
  have hhugeText : (float 1e22).display = "1e+22".toList := by
    decide +kernel
  have hzeroText : (float (-0.0)).display = "-0.0".toList := by
    decide +kernel
  have hnegative : isNegative (-0.0) = true := by
    decide
  have hvalue : value 1e22 = 10 ^ 22 := by
    have hunpack : (1e22 : Float).toModel.unpack =
        .finite .positive 4768371582031250 21 (by decide) := rfl
    rw [value, hunpack]
    norm_num [Float.Model.UnpackedFloat.Sign.apply]
  rw [hhugeText, hvalue] at hexponent
  rw [hzeroText] at hsign hint
  rw [hnegative] at hsign
  refine ⟨hhugeText, hexponent.2 (.inl ?_), hzeroText, hsign, hint⟩
  norm_num

end Value
end Stackline
