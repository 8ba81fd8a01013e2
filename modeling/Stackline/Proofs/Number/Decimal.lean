import Mathlib
import Stackline.Number.Double
import Stackline.Proofs.Literal

/-!
What the text of a decimal denotes. `Decimal.Spells` gives the number of a text in either layout
without reference to how it is written or read. Main statements: both layouts spell the decimal they
are made from, and reading a text gives a decimal of the number that the text spells.
-/

namespace Stackline

namespace Integer

theorem decimal_append (s t : Text) :
    decimal (s ++ t) = decimal s * 10 ^ t.length + decimal t := by
  simp only [decimal, List.reverse_append, List.map_append, Nat.ofDigits_append, List.length_map,
    List.length_reverse]
  ring

@[simp]
theorem decimal_toDigits (n : Nat) : decimal (Nat.toDigits 10 n) = n := by
  rw [← ofNumeral_eq_decimal, ofNumeral_toDigits]

@[simp]
theorem decimal_replicate_zero (n : Nat) : decimal (List.replicate n '0') = 0 := by
  induction n with
  | zero => rfl
  | succ n ih =>
    rw [List.replicate_succ', decimal_append, ih]
    rfl

theorem decimal_leftpad (n : Nat) (t : Text) : decimal (t.leftpad n '0') = decimal t := by
  rw [List.leftpad, decimal_append, decimal_replicate_zero, Nat.zero_mul, Nat.zero_add]

theorem isNumeral_append {s t : Text} (hs : isNumeral s) (ht : ∀ c ∈ t, c.isDigit) :
    isNumeral (s ++ t) := by
  rw [isNumeral_iff] at hs ⊢
  refine ⟨List.append_ne_nil_of_left_ne_nil hs.1 t, ?_⟩
  intro c hc
  rcases List.mem_append.1 hc with hc | hc
  · exact hs.2 c hc
  · exact ht c hc

theorem isDigit_of_mem_leftpad {n : Nat} {t : Text} (ht : ∀ c ∈ t, c.isDigit) :
    ∀ c ∈ t.leftpad n '0', c.isDigit := by
  intro c hc
  rcases List.mem_append.1 hc with hc | hc
  · rw [List.eq_of_mem_replicate hc]
    decide
  · exact ht c hc

end Integer

namespace Decimal

open Integer

def value (d : Decimal) : ℚ :=
  d.significand * 10 ^ d.exponent

theorem value_nonneg (d : Decimal) : 0 ≤ d.value := by
  unfold value
  positivity

inductive Layout where
  | positional
  | scientific
  deriving Repr, DecidableEq

/--
The text before the exponent: one digit, behind which a point and further digits may follow.
-/
inductive Mantissa : Text → ℚ → Prop where
  | digit {lead : Char} (hlead : lead.isDigit) : Mantissa [lead] (decimal [lead])
  | point {lead : Char} {fraction : Text} (hlead : lead.isDigit) (hfraction : isNumeral fraction) :
    Mantissa (lead :: '.' :: fraction) (decimal (lead :: fraction) / 10 ^ fraction.length)

/--
A text in one of the layouts and the number that it denotes. An exponent has a sign and at least two
digits.
-/
inductive Spells : Layout → Text → ℚ → Prop where
  | positional {whole fraction : Text} (hwhole : isNumeral whole) (hfraction : isNumeral fraction) :
    Spells .positional (whole ++ '.' :: fraction)
      (decimal (whole ++ fraction) / 10 ^ fraction.length)
  | scientific {mantissa digits : Text} {sign : Char} {q : ℚ} {e : Int}
    (hmantissa : Mantissa mantissa q) (hsign : sign = '+' ∨ sign = '-') (hlength : 2 ≤ digits.length)
    (he : Integer.Denotes (sign :: digits) e) :
    Spells .scientific (mantissa ++ 'e' :: sign :: digits) (q * 10 ^ e)

theorem isNumeral_digits (d : Decimal) : isNumeral d.digits :=
  isNumeral_toDigits d.significand

theorem spells_positional_of_nonneg {d : Decimal} (h : 0 ≤ d.exponent) :
    Spells .positional d.positional d.value := by
  have hwhole : isNumeral (d.digits ++ List.replicate d.exponent.toNat '0') := by
    apply isNumeral_append d.isNumeral_digits
    intro c hc
    rw [List.eq_of_mem_replicate hc]
    decide
  have hfraction : isNumeral ['0'] := rfl
  have hspells := Spells.positional hwhole hfraction
  have hvalue : d.value =
      (decimal (d.digits ++ List.replicate d.exponent.toNat '0' ++ ['0']) : ℚ) / 10 ^ 1 := by
    obtain ⟨n, hn⟩ := Int.eq_ofNat_of_zero_le h
    have hzero : decimal ['0'] = 0 := rfl
    simp only [value, hn, decimal_append, digits, decimal_toDigits, decimal_replicate_zero, hzero,
      Int.toNat_natCast, List.length_replicate, List.length_singleton, zpow_natCast]
    push_cast
    ring
  rw [positional, if_pos h, hvalue]
  exact hspells

/--
A point among digits divides their number.
-/
theorem spells_of_digits {t : Text} {places : Nat} (hdigits : ∀ c ∈ t, c.isDigit)
    (hplaces : 0 < places) (hlength : places < t.length) :
    Spells .positional (t.take (t.length - places) ++ '.' :: t.drop (t.length - places))
      (decimal t / 10 ^ places) := by
  have hwhole : isNumeral (t.take (t.length - places)) := by
    rw [isNumeral_iff, ← List.length_pos_iff, List.length_take]
    exact ⟨by omega, fun c hc => hdigits c (List.mem_of_mem_take hc)⟩
  have hfraction : isNumeral (t.drop (t.length - places)) := by
    rw [isNumeral_iff, ← List.length_pos_iff, List.length_drop]
    exact ⟨by omega, fun c hc => hdigits c (List.mem_of_mem_drop hc)⟩
  have hspells := Spells.positional hwhole hfraction
  rw [List.take_append_drop, List.length_drop] at hspells
  have hlast : t.length - (t.length - places) = places := by omega
  rwa [hlast] at hspells

theorem spells_positional_of_neg {d : Decimal} (h : d.exponent < 0) :
    Spells .positional d.positional d.value := by
  have hlength : d.exponent.natAbs < (d.digits.leftpad (d.exponent.natAbs + 1) '0').length := by
    rw [List.length_leftpad]
    exact Nat.le_max_left _ _
  have hvalue : d.value = decimal (d.digits.leftpad (d.exponent.natAbs + 1) '0') /
      10 ^ d.exponent.natAbs := by
    rw [decimal_leftpad, digits, decimal_toDigits, value, div_eq_mul_inv, ← zpow_natCast, ← zpow_neg]
    congr 2
    omega
  rw [positional, if_neg (Int.not_le.2 h), hvalue]
  apply spells_of_digits _ (by omega) hlength
  exact isDigit_of_mem_leftpad (isNumeral_iff.1 d.isNumeral_digits).2

theorem spells_positional (d : Decimal) : Spells .positional d.positional d.value := by
  by_cases h : 0 ≤ d.exponent
  · exact spells_positional_of_nonneg h
  · exact spells_positional_of_neg (Int.not_le.1 h)

theorem mantissa_of_isNumeral {t : Text} (h : isNumeral t) :
    Mantissa (scientific.mantissa t) (decimal t / 10 ^ (t.length - 1)) := by
  obtain ⟨hne, hdigits⟩ := isNumeral_iff.1 h
  match t with
  | [] => exact absurd rfl hne
  | [lead] =>
    have hmantissa := Mantissa.digit (hdigits lead (by simp))
    simpa [scientific.mantissa] using hmantissa
  | lead :: next :: rest =>
    apply Mantissa.point (hdigits lead (by simp))
    rw [isNumeral_iff]
    exact ⟨by simp, fun c hc => hdigits c (List.mem_cons_of_mem lead hc)⟩

theorem denotes_signed (e : Int) : Integer.Denotes (scientific.signed e) e := by
  have hdigits := isDigit_of_mem_leftpad (n := 2) (isNumeral_iff.1 (isNumeral_toDigits e.natAbs)).2
  have hne : List.leftpad 2 '0' (Nat.toDigits 10 e.natAbs) ≠ [] := by
    rw [← List.length_pos_iff, List.length_leftpad]
    omega
  have hdecimal : decimal (List.leftpad 2 '0' (Nat.toDigits 10 e.natAbs)) = e.natAbs := by
    rw [decimal_leftpad, decimal_toDigits]
  unfold scientific.signed
  split
  next h =>
    have hdenotes := Integer.Denotes.minus hne hdigits
    have hneg : -(e.natAbs : Int) = e := by omega
    rwa [hdecimal, hneg] at hdenotes
  next h =>
    have hdenotes := Integer.Denotes.plus hne hdigits
    have hpos : (e.natAbs : Int) = e := by omega
    rwa [hdecimal, hpos] at hdenotes

theorem spells_scientific (d : Decimal) : Spells .scientific d.scientific d.value := by
  have hmantissa := mantissa_of_isNumeral d.isNumeral_digits
  have hlength : 0 < d.digits.length := List.length_pos_iff.2 (isNumeral_iff.1 d.isNumeral_digits).1
  have hvalue : d.value = decimal d.digits / 10 ^ (d.digits.length - 1) *
      10 ^ (d.exponent + d.digits.length - 1) := by
    have hexponent : d.exponent + d.digits.length - 1 =
        (d.digits.length - 1 : Nat) + d.exponent := by omega
    rw [hexponent, zpow_add₀ (by norm_num), zpow_natCast, value, digits, decimal_toDigits]
    field_simp
  rw [hvalue]
  apply Spells.scientific hmantissa
  · split
    · exact .inr rfl
    · exact .inl rfl
  · rw [List.length_leftpad]
    exact Nat.le_max_left _ _
  · exact denotes_signed _

/-!
Reading. The point and the letter before the exponent are found where the layouts have them, as
neither is a digit.
-/

theorem ne_point_of_isDigit (x : Char) (h : x.isDigit) : decide (x = '.') = false := by
  apply decide_eq_false
  rintro rfl
  exact absurd h (by decide)

theorem value_scaled (n : Nat) (e : Int) (places : Nat) :
    value ⟨n, e - places⟩ = n / 10 ^ places * 10 ^ e := by
  rw [value, zpow_sub₀ (by norm_num), zpow_natCast]
  ring

theorem unscaled?_of_parts {body whole fraction : Text} {e : Int}
    (hparts : (Text.cut? (· = '.') body).getD (body, []) = (whole, fraction))
    (hnumeral : isNumeral (whole ++ fraction)) :
    ∃ d, read?.unscaled? body e = some d ∧
      d.value = decimal (whole ++ fraction) / 10 ^ fraction.length * 10 ^ e := by
  refine ⟨⟨decimal (whole ++ fraction), e - fraction.length⟩, ?_, value_scaled _ _ _⟩
  simp only [read?.unscaled?, hparts, hnumeral, if_true, ofNumeral_eq_decimal]

theorem unscaled?_of_point {whole fraction : Text} (hwhole : isNumeral whole)
    (hfraction : isNumeral fraction) (e : Int) :
    ∃ d, read?.unscaled? (whole ++ '.' :: fraction) e = some d ∧
      d.value = decimal (whole ++ fraction) / 10 ^ fraction.length * 10 ^ e := by
  have hcut : Text.cut? (· = '.') (whole ++ '.' :: fraction) = some (whole, fraction) := by
    rw [Text.cut?_eq_some_iff]
    refine ⟨'.', rfl, decide_eq_true rfl, ?_⟩
    intro x hx
    exact ne_point_of_isDigit x ((isNumeral_iff.1 hwhole).2 x hx)
  apply unscaled?_of_parts
  · rw [hcut, Option.getD_some]
  · exact isNumeral_append hwhole (isNumeral_iff.1 hfraction).2

theorem unscaled?_of_mantissa {t : Text} {q : ℚ} (h : Mantissa t q) (e : Int) :
    ∃ d, read?.unscaled? t e = some d ∧ d.value = q * 10 ^ e := by
  cases h with
  | @digit lead hlead =>
    have hparts : (Text.cut? (· = '.') [lead]).getD ([lead], []) = ([lead], []) := by
      have hcut : Text.cut? (· = '.') [lead] = none := by
        rw [Text.cut?_eq_none_iff]
        simpa using ne_point_of_isDigit lead hlead
      rw [hcut, Option.getD_none]
    have hnumeral : isNumeral ([lead] ++ []) := by simpa [isNumeral] using hlead
    simpa using unscaled?_of_parts hparts hnumeral
  | @point lead fraction hlead hfraction =>
    have hwhole : isNumeral [lead] := by simpa [isNumeral] using hlead
    exact unscaled?_of_point hwhole hfraction e

theorem Mantissa.isDigit_or_point {t : Text} {q : ℚ} (h : Mantissa t q) :
    ∀ c ∈ t, c.isDigit ∨ c = '.' := by
  intro c hc
  cases h with
  | digit hlead =>
    rw [List.mem_singleton.1 hc]
    exact .inl hlead
  | point hlead hfraction =>
    rcases List.mem_cons.1 hc with rfl | hc
    · exact .inl hlead
    · rcases List.mem_cons.1 hc with rfl | hc
      · exact .inr rfl
      · exact .inl ((isNumeral_iff.1 hfraction).2 c hc)

theorem Spells.isDigit_or_point {t : Text} {q : ℚ} (h : Spells .positional t q) :
    ∀ c ∈ t, c.isDigit ∨ c = '.' := by
  intro c hc
  cases h with
  | positional hwhole hfraction =>
    rcases List.mem_append.1 hc with hc | hc
    · exact .inl ((isNumeral_iff.1 hwhole).2 c hc)
    · rcases List.mem_cons.1 hc with hc | hc
      · exact .inr hc
      · exact .inl ((isNumeral_iff.1 hfraction).2 c hc)

theorem Spells.point_mem {t : Text} {q : ℚ} (h : Spells .positional t q) : '.' ∈ t := by
  cases h with
  | positional => simp

theorem Spells.e_mem {t : Text} {q : ℚ} (h : Spells .scientific t q) : 'e' ∈ t := by
  cases h with
  | scientific => simp

theorem Mantissa.exists_digit {t : Text} {q : ℚ} (h : Mantissa t q) :
    ∃ lead rest, t = lead :: rest ∧ lead.isDigit := by
  cases h with
  | digit hlead => exact ⟨_, _, rfl, hlead⟩
  | point hlead => exact ⟨_, _, rfl, hlead⟩

theorem Spells.exists_digit {layout : Layout} {t : Text} {q : ℚ} (h : Spells layout t q) :
    ∃ lead rest, t = lead :: rest ∧ lead.isDigit := by
  cases h with
  | positional hwhole =>
    obtain ⟨hne, hdigits⟩ := isNumeral_iff.1 hwhole
    obtain ⟨lead, rest, rfl⟩ := List.exists_cons_of_ne_nil hne
    exact ⟨lead, _, rfl, hdigits lead (by simp)⟩
  | scientific hmantissa =>
    obtain ⟨lead, rest, rfl, hlead⟩ := hmantissa.exists_digit
    exact ⟨lead, _, rfl, hlead⟩

theorem not_isPower {c : Char} (h : c.isDigit ∨ c = '.') :
    (decide (c = 'e') || decide (c = 'E')) = false := by
  rw [Bool.or_eq_false_iff, decide_eq_false_iff_not, decide_eq_false_iff_not]
  constructor
  · rintro rfl
    exact absurd h (by decide)
  · rintro rfl
    exact absurd h (by decide)

theorem read?_of_spells {layout : Layout} {t : Text} {q : ℚ} (h : Spells layout t q) :
    ∃ d, read? t = some d ∧ d.value = q := by
  cases h with
  | @positional whole fraction hwhole hfraction =>
    have hcut : Text.cut? (fun c => c = 'e' || c = 'E') (whole ++ '.' :: fraction) = none := by
      rw [Text.cut?_eq_none_iff]
      intro c hc
      exact not_isPower ((Spells.positional hwhole hfraction).isDigit_or_point c hc)
    rw [read?, hcut]
    simpa using unscaled?_of_point hwhole hfraction 0
  | @scientific mantissa digits sign q e hmantissa hsign hlength he =>
    have hcut : Text.cut? (fun c => c = 'e' || c = 'E') (mantissa ++ 'e' :: sign :: digits) =
        some (mantissa, sign :: digits) := by
      rw [Text.cut?_eq_some_iff]
      exact ⟨'e', rfl, rfl, fun c hc => not_isPower (hmantissa.isDigit_or_point c hc)⟩
    rw [read?, hcut]
    simp only [Integer.read?_eq_some_iff.2 he, Option.bind_eq_bind, Option.bind_some]
    exact unscaled?_of_mantissa hmantissa e

end Decimal
end Stackline
