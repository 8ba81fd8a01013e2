import Mathlib
import Stackline.Proofs.FloatText

/-!
The text of a double from two simpler ones. A plain text has no point behind a whole number, and an
exponential text has no plus and no padding in its exponent. Main statement: the text of a double is
its plain text, with `.0` behind a whole number, or its exponential text with the exponent read and
written again.
-/

namespace Stackline

namespace Decimal

/--
The power of ten of the first digit.
-/
def order (d : Decimal) : Int :=
  d.exponent + d.digits.length - 1

def plain (d : Decimal) : Text :=
  if 0 ≤ d.exponent then d.digits ++ List.replicate d.exponent.toNat '0' else d.positional

def exponential (d : Decimal) : Text :=
  scientific.mantissa d.digits ++ 'e' :: Integer.text d.order

theorem positional_eq_plain (d : Decimal) :
    d.positional = d.plain ++ if 0 ≤ d.exponent then ['.', '0'] else [] := by
  unfold plain
  split
  next h => rw [positional, if_pos h]
  next h => rw [List.append_nil]

theorem zpow_order_le {d : Decimal} (hd : d.significand ≠ 0) : 10 ^ d.order ≤ d.value := by
  have hlength : 0 < d.digits.length := Nat.length_toDigits_pos
  have hpow : 10 ^ (d.digits.length - 1) ≤ d.significand := by
    by_contra hlt
    rw [Nat.not_le] at hlt
    by_cases hone : d.digits.length = 1
    · rw [hone, Nat.sub_self, Nat.pow_zero] at hlt
      omega
    · have := (Nat.length_toDigits_le_iff (by decide) (by omega)).2 hlt
      unfold digits at this hlength
      omega
  have horder : d.order = (d.digits.length - 1 : Nat) + d.exponent := by
    unfold order
    omega
  rw [horder, zpow_add₀ (by norm_num), zpow_natCast, value]
  apply mul_le_mul_of_nonneg_right _ (by positivity)
  exact_mod_cast hpow

theorem lt_zpow_order (d : Decimal) : d.value < 10 ^ (d.order + 1) := by
  have hpow : d.significand < 10 ^ d.digits.length :=
    (Nat.length_toDigits_le_iff (by decide) Nat.length_toDigits_pos).1 (le_refl _)
  have horder : d.order + 1 = d.digits.length + d.exponent := by
    unfold order
    omega
  rw [horder, zpow_add₀ (by norm_num), zpow_natCast, value]
  apply mul_lt_mul_of_pos_right _ (by positivity)
  exact_mod_cast hpow

end Decimal

namespace Binary

/-!
Whole numbers below the limit for exponents are written without places, and no others are.
-/

theorem exponent_of_onGrid? {b : Binary} {e : Int} {d : Decimal} (h : b.onGrid? e = some d) :
    d.exponent = e := by
  unfold onGrid? at h
  dsimp only at h
  generalize (4 * b.significand - if b.narrowBelow then 1 else 2) = low at h
  split at h
  next =>
    obtain rfl := Option.some.inj h
    rfl
  next =>
    split at h
    next =>
      obtain rfl := Option.some.inj h
      rfl
    next => cases h

/--
Whether a number stays the same if it is cut off at the point.
-/
def isWhole (b : Binary) : Bool :=
  b.significand % Nat.pow 2 (-b.exponent).toNat = 0

theorem isWhole_iff_dvd {b : Binary} : b.isWhole ↔ 2 ^ (-b.exponent).toNat ∣ b.significand := by
  rw [isWhole, decide_eq_true_iff, Nat.pow_eq, Nat.dvd_iff_mod_eq_zero]

theorem isWhole_iff {b : Binary} : b.isWhole ↔ ∃ n : Nat, b.value = n := by
  rw [isWhole_iff_dvd, value]
  by_cases h : 0 ≤ b.exponent
  · obtain ⟨k, hk⟩ := Int.eq_ofNat_of_zero_le h
    have hzero : (-b.exponent).toNat = 0 := by omega
    rw [hzero, pow_zero, hk, zpow_natCast]
    refine iff_of_true (one_dvd _) ⟨b.significand * 2 ^ k, ?_⟩
    push_cast
    rfl
  · have hexponent : b.exponent = -((-b.exponent).toNat : Int) := by omega
    generalize (-b.exponent).toNat = k at hexponent ⊢
    rw [hexponent, zpow_neg, zpow_natCast]
    constructor
    · rintro ⟨n, hn⟩
      refine ⟨n, ?_⟩
      rw [hn]
      push_cast
      field_simp
    · rintro ⟨n, hn⟩
      refine ⟨n, ?_⟩
      field_simp at hn
      exact_mod_cast hn

/--
A whole number is a multiple of the step of the grid of whole numbers.
-/
theorem step_dvd_of_isWhole {b : Binary} (hwhole : b.isWhole) :
    Nat.pow 10 (0 : Int).toNat * Nat.pow 2 (2 - b.exponent).toNat ∣
      4 * b.significand * (Nat.pow 2 (b.exponent - 2).toNat * Nat.pow 10 (-(0 : Int)).toNat) := by
  have htwo : 2 ^ 2 * 2 ^ (-b.exponent).toNat ∣ 4 * b.significand :=
    Nat.mul_dvd_mul_left 4 (isWhole_iff_dvd.1 hwhole)
  rw [← Nat.pow_add] at htwo
  simp only [Nat.pow_eq, Int.toNat_zero, Int.neg_zero, pow_zero, Nat.one_mul, Nat.mul_one]
  apply Dvd.dvd.mul_right
  exact (Nat.pow_dvd_pow 2 (by omega)).trans htwo

theorem isSome_onGrid?_zero {b : Binary} (hb : b.significand ≠ 0) (hwhole : b.isWhole) :
    (b.onGrid? 0).isSome := by
  have hdvd := step_dvd_of_isWhole hwhole
  have hpos : 0 < Nat.pow 2 (b.exponent - 2).toNat * Nat.pow 10 (-(0 : Int)).toNat := by
    simp only [Nat.pow_eq]
    positivity
  unfold onGrid?
  dsimp only
  generalize Nat.pow 2 (b.exponent - 2).toNat * Nat.pow 10 (-(0 : Int)).toNat = bit at hdvd hpos ⊢
  generalize hlow : (4 * b.significand - if b.narrowBelow then 1 else 2) = low
  have hlt : low < 4 * b.significand := by
    rw [← hlow]
    split <;> omega
  -- The number itself is the lower point, and it is a hit.
  rw [Nat.div_mul_cancel hdvd, decide_eq_true (Nat.mul_lt_mul_of_pos_right hlt hpos)]
  split
  next => rfl
  next => rfl

theorem exists_findSome?_nonneg {b : Binary} (start : Int) (count : Nat)
    (hzero : (b.onGrid? 0).isSome) (hstart : 0 ≤ start) (hcount : start < count) :
    ∃ d, ((List.range count).map fun (finer : Nat) => start - finer).findSome? b.onGrid? =
      some d ∧ 0 ≤ d.exponent := by
  have hsorted : ((List.range count).map fun (finer : Nat) => start - finer).Pairwise (· > ·) := by
    rw [List.pairwise_map]
    exact List.pairwise_lt_range.imp fun hlt => by omega
  have hmem : (0 : Int) ∈ (List.range count).map fun (finer : Nat) => start - finer := by
    rw [List.mem_map]
    exact ⟨start.toNat, List.mem_range.2 (by omega), by omega⟩
  generalize (List.range count).map (fun (finer : Nat) => start - finer) = grids at hsorted hmem ⊢
  obtain ⟨d, hfound⟩ : ∃ d, grids.findSome? b.onGrid? = some d := by
    rw [← Option.isSome_iff_exists, List.isSome_findSome?]
    exact List.any_eq_true.2 ⟨0, hmem, hzero⟩
  refine ⟨d, hfound, ?_⟩
  obtain ⟨before, e, after, rfl, he, hbefore⟩ := List.findSome?_eq_some_iff.1 hfound
  rw [exponent_of_onGrid? he]
  -- Grids get finer, so the one of the whole numbers is this one or comes behind it.
  rcases List.mem_append.1 hmem with hmem | hmem
  · rw [hbefore 0 hmem] at hzero
    cases hzero
  · rcases List.mem_cons.1 hmem with rfl | hmem
    · exact le_refl 0
    · exact (List.rel_of_pairwise_cons (List.pairwise_append.1 hsorted).2.1 hmem).le

theorem zpow_log2_le {b : Binary} (hb : b.significand ≠ 0) :
    2 ^ (b.significand.log2 + b.exponent) ≤ b.value := by
  rw [zpow_add₀ two_ne_zero, zpow_natCast, value]
  apply mul_le_mul_of_nonneg_right _ (by positivity)
  exact_mod_cast Nat.log2_self_le hb

theorem lt_zpow_log2 (b : Binary) : b.value < 2 ^ (b.significand.log2 + b.exponent + 1) := by
  have hsum : b.significand.log2 + b.exponent + 1 =
      (b.significand.log2 + 1 : Nat) + b.exponent := by
    push_cast
    ring
  rw [hsum, zpow_add₀ two_ne_zero, zpow_natCast, value]
  apply mul_lt_mul_of_pos_right _ (by positivity)
  exact_mod_cast Nat.lt_log2_self

theorem exponent_shortest_of_isWhole {b : Binary} (hwhole : b.isWhole) (hlt : b.value < 10 ^ 16) :
    0 ≤ b.shortest.exponent := by
  unfold shortest
  split
  next => exact le_refl 0
  next hb =>
    obtain ⟨n, hn⟩ := isWhole_iff.1 hwhole
    have hone : 1 ≤ b.value := by
      have hpos := value_pos_iff.2 (Nat.pos_of_ne_zero hb)
      rw [hn] at hpos ⊢
      exact_mod_cast hpos
    have hlow : (0 : Int) < b.significand.log2 + b.exponent + 1 := by
      rw [← zpow_lt_zpow_iff_right₀ (one_lt_two (α := ℚ)), zpow_zero]
      exact hone.trans_lt b.lt_zpow_log2
    have hhigh : b.significand.log2 + b.exponent < (54 : Int) := by
      rw [← zpow_lt_zpow_iff_right₀ (one_lt_two (α := ℚ))]
      refine (zpow_log2_le hb).trans_lt (hlt.trans ?_)
      norm_num
    obtain ⟨d, hfound, hd⟩ := exists_findSome?_nonneg
      ((b.significand.log2 + b.exponent) * 301 / 1000 + 2) 24 (isSome_onGrid?_zero hb hwhole)
      (by omega) (by omega)
    dsimp only
    rw [hfound, Option.getD_some]
    exact hd

/--
Only whole numbers have a whole number within half of their last bit.
-/
theorem isWhole_of_attracts {b : Binary} {n : Nat} (h : b.Attracts n) : b.isWhole := by
  rw [isWhole_iff_dvd]
  by_cases hexponent : 0 ≤ b.exponent
  · have hzero : (-b.exponent).toNat = 0 := by omega
    rw [hzero, pow_zero]
    exact one_dvd _
  · obtain ⟨hlow, hhigh⟩ := h
    have hgap := b.gapBelow_le
    have hlow : b.value - 2 ^ b.exponent / 2 ≤ n := by
      rcases hlow with hlow | ⟨-, hlow⟩ <;> linarith
    have hhigh : n ≤ b.value + 2 ^ b.exponent / 2 := by
      rcases hhigh with hhigh | ⟨-, hhigh⟩ <;> linarith
    have hk : b.exponent = -((-b.exponent).toNat : Int) := by omega
    generalize (-b.exponent).toNat = k at hk ⊢
    rw [value, hk, zpow_neg, zpow_natCast] at hlow hhigh
    field_simp at hlow hhigh
    have hle : b.significand * 2 ≤ 2 ^ k * n * 2 + 1 := by
      rw [← Nat.cast_le (α := ℚ)]
      push_cast
      linarith
    have hge : 2 ^ k * n * 2 ≤ b.significand * 2 + 1 := by
      rw [← Nat.cast_le (α := ℚ)]
      push_cast
      linarith
    exact ⟨n, by omega⟩

theorem isWhole_of_exponent_shortest {b : Binary} (h : 0 ≤ b.shortest.exponent) : b.isWhole := by
  obtain ⟨k, hk⟩ := Int.eq_ofNat_of_zero_le h
  have hattracts := b.attracts_shortest
  have hvalue : b.shortest.value = (b.shortest.significand * 10 ^ k : Nat) := by
    rw [Decimal.value, hk, zpow_natCast]
    push_cast
    rfl
  rw [hvalue] at hattracts
  exact isWhole_of_attracts hattracts

/-!
The exponents of doubles are far inside the 32 bits in which they are read.
-/

theorem exponent_lt (x : Float) : (ofFloat x).exponent < 973 := by
  by_cases h : x.toBits.toNat / 2 ^ 52 % 2048 = 0
  · rw [ofFloat_of_subnormal h]
    dsimp only
    omega
  · rw [ofFloat_of_normal h]
    dsimp only
    omega

theorem Attracts.bounds {b : Binary} {q : ℚ} (h : b.Attracts q) (hb : 0 < b.value)
    (hrange : b.InRange) : 2 ^ (b.exponent - 1) ≤ q ∧ q ≤ 2 ^ (b.exponent + 54) := by
  have hunit : (0 : ℚ) < 2 ^ b.exponent := by positivity
  have hgap := b.gapBelow_le
  have hone : (1 : ℚ) ≤ b.significand := by
    exact_mod_cast value_pos_iff.1 hb
  have hsig : (b.significand : ℚ) ≤ 2 ^ 53 := by
    exact_mod_cast hrange.significand_lt.le
  have hlow : 1 * 2 ^ b.exponent ≤ b.value := mul_le_mul_of_nonneg_right hone hunit.le
  have hhigh : b.value ≤ 2 ^ 53 * 2 ^ b.exponent := mul_le_mul_of_nonneg_right hsig hunit.le
  rw [zpow_sub_one₀ two_ne_zero, zpow_add₀ two_ne_zero]
  norm_num at hhigh ⊢
  constructor
  · rcases h.low with hq | ⟨-, hq⟩ <;> linarith
  · rcases h.high with hq | ⟨-, hq⟩ <;> linarith

theorem two_zpow_le {n : Int} (hn : 0 ≤ n) : (2 : ℚ) ^ n ≤ 10 ^ n :=
  zpow_le_zpow_left₀ hn (by norm_num) (by norm_num)

theorem order_shortest_bounds {x : Float} (hx : 0 < (ofFloat x).value) :
    -1100 < (ofFloat x).shortest.order ∧ (ofFloat x).shortest.order < 1100 := by
  have hrange := inRange_ofFloat x
  have hattracts := (ofFloat x).attracts_shortest
  obtain ⟨hlow, hhigh⟩ := hattracts.bounds hx hrange
  have hsig : (ofFloat x).shortest.significand ≠ 0 := by
    intro hzero
    have hpos := hattracts.pos hx
    rw [Decimal.value, hzero, Nat.cast_zero, zero_mul] at hpos
    exact lt_irrefl _ hpos
  constructor
  · have hle : (10 : ℚ) ^ (-1075 : Int) ≤ 2 ^ ((ofFloat x).exponent - 1) :=
      calc (10 : ℚ) ^ (-1075 : Int)
        _ ≤ 2 ^ (-1075 : Int) := by
          rw [zpow_neg, zpow_neg]
          exact inv_anti₀ (by positivity) (two_zpow_le (by decide))
        _ ≤ 2 ^ ((ofFloat x).exponent - 1) := by
          have := hrange.le_exponent
          exact zpow_le_zpow_right₀ one_le_two (by omega)
    have hlt := (hle.trans hlow).trans_lt (Decimal.lt_zpow_order _)
    rw [zpow_lt_zpow_iff_right₀ (by norm_num)] at hlt
    omega
  · have hle : (2 : ℚ) ^ ((ofFloat x).exponent + 54) ≤ 10 ^ (1027 : Int) :=
      calc (2 : ℚ) ^ ((ofFloat x).exponent + 54)
        _ ≤ 2 ^ (1027 : Int) := by
          have := exponent_lt x
          exact zpow_le_zpow_right₀ one_le_two (by omega)
        _ ≤ 10 ^ (1027 : Int) := two_zpow_le (by decide)
    have hle := ((Decimal.zpow_order_le hsig).trans hhigh).trans hle
    rw [zpow_le_zpow_iff_right₀ (by norm_num)] at hle
    omega

end Binary

namespace Double

/--
The sign that a text has in front.
-/
def mark (x : Float) : Text :=
  if isNegative x then ['-'] else []

/--
The plain text of a double.
-/
def plain (x : Float) : Text :=
  if x.isNaN then
    "NaN".toList
  else
    mark x ++ if x.abs == infinity then "inf".toList else (Binary.ofFloat x).shortest.plain

/--
The exponential text of a finite double.
-/
def exponential (x : Float) : Text :=
  mark x ++ (Binary.ofFloat x).shortest.exponential

/--
Read an exponent of 32 bits.
-/
def readExponent? (t : Text) : Option Int :=
  (Integer.read? t).filter fun e => -2 ^ 31 ≤ e ∧ e < 2 ^ 31

/--
Cut a text at its exponent, and write the exponent again with a sign and at least two digits.
-/
def withSignedExponent (t : Text) : Text :=
  let (mantissa, exponent) := (Text.cut? (· = 'e') t).getD (t, ['0'])
  let e := (readExponent? exponent).getD 0
  let sign := if e < 0 then '-' else '+'
  mantissa ++ 'e' :: sign :: List.leftpad 2 '0' (Nat.toDigits 10 e.natAbs)

/--
The text of a double from its plain and its exponential text.
-/
def write (x : Float) : Text :=
  if !x.isFinite then
    plain x
  else if isExtreme x then
    withSignedExponent (exponential x)
  else if (Binary.ofFloat x).isWhole then
    plain x ++ ['.', '0']
  else
    plain x

theorem readExponent?_text {e : Int} (hlow : -2 ^ 31 ≤ e) (hhigh : e < 2 ^ 31) :
    readExponent? (Integer.text e) = some e := by
  rw [readExponent?, Integer.read?_text]
  exact if_pos (decide_eq_true ⟨hlow, hhigh⟩)

theorem withSignedExponent_append {mantissa : Text} {e : Int} (hmantissa : 'e' ∉ mantissa)
    (hlow : -2 ^ 31 ≤ e) (hhigh : e < 2 ^ 31) :
    withSignedExponent (mantissa ++ 'e' :: Integer.text e) =
      mantissa ++ 'e' :: Decimal.scientific.signed e := by
  have hcut : Text.cut? (· = 'e') (mantissa ++ 'e' :: Integer.text e) =
      some (mantissa, Integer.text e) := by
    rw [Text.cut?_eq_some_iff]
    refine ⟨'e', rfl, decide_eq_true rfl, ?_⟩
    intro c hc
    apply decide_eq_false
    rintro rfl
    exact hmantissa hc
  unfold withSignedExponent
  rw [hcut, Option.getD_some]
  dsimp only
  rw [readExponent?_text hlow hhigh, Option.getD_some]
  rfl

theorem e_not_mem_mark (x : Float) : 'e' ∉ mark x := by
  unfold mark
  split <;> decide

theorem withSignedExponent_exponential {x : Float} (hx : 0 < (Binary.ofFloat x).value) :
    withSignedExponent (exponential x) = mark x ++ (Binary.ofFloat x).shortest.scientific := by
  obtain ⟨hlow, hhigh⟩ := Binary.order_shortest_bounds hx
  have hmantissa := Decimal.mantissa_of_isNumeral (Binary.ofFloat x).shortest.isNumeral_digits
  have he : 'e' ∉ mark x ++ Decimal.scientific.mantissa (Binary.ofFloat x).shortest.digits := by
    rw [List.mem_append, not_or]
    refine ⟨e_not_mem_mark x, ?_⟩
    intro he
    exact absurd (hmantissa.isDigit_or_point 'e' he) (by decide)
  rw [exponential, Decimal.exponential, ← List.append_assoc,
    withSignedExponent_append he (by omega) (by omega), List.append_assoc]
  rfl

theorem plain_of_isFinite {x : Float} (hx : x.isFinite) :
    plain x = mark x ++ (Binary.ofFloat x).shortest.plain := by
  obtain ⟨hnan, hinfinite⟩ := isFinite_iff.1 hx
  rw [plain, hnan, hinfinite]
  rfl

theorem text_of_not_isFinite {x : Float} (hx : x.isFinite = false) : text x = plain x := by
  unfold text plain
  cases hnan : x.isNaN with
  | true => rfl
  | false =>
    cases hinfinite : x.abs == infinity with
    | true => rfl
    | false =>
      rw [isFinite_iff.2 ⟨hnan, hinfinite⟩] at hx
      cases hx

theorem ofFloat_value_of_isExtreme {x : Float} (hx : x.isFinite) (h : isExtreme x) :
    0 < (Binary.ofFloat x).value := by
  rw [← abs_value hx]
  rcases (isExtreme_iff hx).1 h with hhuge | ⟨hpos, -⟩
  · linarith
  · exact hpos

/--
Among the numbers without an exponent, the whole ones are those whose decimal has no places.
-/
theorem exponent_shortest_nonneg_iff {x : Float} (hx : x.isFinite) (h : ¬isExtreme x) :
    0 ≤ (Binary.ofFloat x).shortest.exponent ↔ (Binary.ofFloat x).isWhole := by
  refine ⟨Binary.isWhole_of_exponent_shortest, fun hwhole => ?_⟩
  apply Binary.exponent_shortest_of_isWhole hwhole
  rw [isExtreme_iff hx, not_or, not_le, abs_value hx] at h
  exact h.1

theorem write_of_isFinite {x : Float} (hx : x.isFinite) :
    write x = mark x ++ magnitude x := by
  unfold write magnitude
  rw [plain_of_isFinite hx, hx]
  simp only [Bool.not_true, Bool.false_eq_true, if_false]
  split
  next hextreme => exact withSignedExponent_exponential (ofFloat_value_of_isExtreme hx hextreme)
  next hextreme =>
    simp only [← exponent_shortest_nonneg_iff hx hextreme, Decimal.positional_eq_plain]
    split
    next => rw [List.append_assoc]
    next => rw [List.append_nil]

theorem text_eq_write (x : Float) : text x = write x := by
  cases hfinite : x.isFinite with
  | false =>
    rw [text_of_not_isFinite hfinite, write, hfinite]
    rfl
  | true =>
    rw [text_of_isFinite hfinite, write_of_isFinite hfinite]
    rfl

end Double
end Stackline
