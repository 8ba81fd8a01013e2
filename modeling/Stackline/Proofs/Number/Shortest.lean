import Mathlib
import Stackline.Proofs.Number.Decimal
import Stackline.Proofs.Number.Double

/-!
The decimal that is chosen for a double.
-/

namespace Stackline

namespace Binary

/--
How far away the next smaller number is.
-/
def gapBelow (b : Binary) : ℚ :=
  2 ^ b.exponent / if b.narrowBelow then 2 else 1

/--
The numbers that round to `b`: those nearer to it than to its neighbours, and the midpoints if its
significand is even.
-/
structure Attracts (b : Binary) (q : ℚ) : Prop where
  low : b.value - b.gapBelow / 2 < q ∨ b.significand % 2 = 0 ∧ b.value - b.gapBelow / 2 = q
  high : q < b.value + 2 ^ b.exponent / 2 ∨ b.significand % 2 = 0 ∧ q = b.value + 2 ^ b.exponent / 2

theorem gapBelow_pos (b : Binary) : 0 < b.gapBelow := by
  unfold gapBelow
  split <;> positivity

theorem attracts_self (b : Binary) : b.Attracts b.value := by
  have hgap := b.gapBelow_pos
  have hunit : (0 : ℚ) < 2 ^ b.exponent := by positivity
  exact ⟨.inl (by linarith), .inl (by linarith)⟩

theorem pow_toNat {a : ℚ} (ha : a ≠ 0) (n : Int) : a ^ n.toNat = a ^ n * a ^ (-n).toNat := by
  rw [← zpow_natCast, ← zpow_natCast, ← zpow_add₀ ha]
  congr 1
  omega

/--
The factor that brings quarters of the last bit and the steps of a grid to whole numbers.
-/
theorem exists_scale (b : Binary) (e : Int) :
    ∃ k : ℚ, 0 < k ∧
      (Nat.pow 2 (b.exponent - 2).toNat * Nat.pow 10 (-e).toNat : Nat) = 2 ^ b.exponent / 4 * k ∧
      (Nat.pow 10 e.toNat * Nat.pow 2 (2 - b.exponent).toNat : Nat) = 10 ^ e * k := by
  refine ⟨10 ^ (-e).toNat * 2 ^ (2 - b.exponent).toNat, by positivity, ?_, ?_⟩
  · have htwo := pow_toNat two_ne_zero (b.exponent - 2)
    rw [zpow_sub₀ two_ne_zero, Int.neg_sub] at htwo
    simp only [Nat.pow_eq]
    push_cast
    rw [htwo]
    ring
  · have hten := pow_toNat (a := 10) (by norm_num) e
    simp only [Nat.pow_eq]
    push_cast
    rw [hten]
    ring

section Scaled

variable {bit step : Nat} {u t k : ℚ} (hk : 0 < k) (hbit : bit = u * k) (hstep : step = t * k)
include hk hbit hstep

theorem bit_lt_step_iff (c n : Nat) : c * bit < n * step ↔ c * u < n * t := by
  rw [← Nat.cast_lt (α := ℚ), Nat.cast_mul, Nat.cast_mul, hbit, hstep, ← mul_assoc, ← mul_assoc,
    mul_lt_mul_iff_left₀ hk]

theorem step_lt_bit_iff (c n : Nat) : n * step < c * bit ↔ n * t < c * u := by
  rw [← Nat.cast_lt (α := ℚ), Nat.cast_mul, Nat.cast_mul, hbit, hstep, ← mul_assoc, ← mul_assoc,
    mul_lt_mul_iff_left₀ hk]

theorem bit_eq_step_iff (c n : Nat) : c * bit = n * step ↔ c * u = n * t := by
  rw [← Nat.cast_inj (R := ℚ), Nat.cast_mul, Nat.cast_mul, hbit, hstep, ← mul_assoc, ← mul_assoc,
    mul_left_inj' hk.ne']

theorem step_eq_bit_iff (c n : Nat) : n * step = c * bit ↔ n * t = c * u := by
  rw [eq_comm, bit_eq_step_iff hk hbit hstep, eq_comm]

end Scaled

theorem value_eq_quarters (b : Binary) :
    b.value = (4 * b.significand : Nat) * (2 ^ b.exponent / 4) := by
  rw [value]
  push_cast
  ring

theorem low_eq_quarters {b : Binary} (hb : b.significand ≠ 0) :
    b.value - b.gapBelow / 2 =
      (4 * b.significand - if b.narrowBelow then 1 else 2 : Nat) * (2 ^ b.exponent / 4) := by
  rw [value, gapBelow]
  cases b.narrowBelow with
  | true =>
    simp only [if_true]
    rw [Nat.cast_sub (by omega)]
    push_cast
    ring
  | false =>
    simp only [Bool.false_eq_true, if_false]
    rw [Nat.cast_sub (by omega)]
    push_cast
    ring

theorem high_eq_quarters (b : Binary) :
    b.value + 2 ^ b.exponent / 2 = (4 * b.significand + 2 : Nat) * (2 ^ b.exponent / 4) := by
  rw [value]
  push_cast
  ring

theorem attracts_of_onGrid? {b : Binary} {e : Int} {d : Decimal} (hb : b.significand ≠ 0)
    (h : b.onGrid? e = some d) : b.Attracts d.value := by
  obtain ⟨k, hk, hbit, hstep⟩ := b.exists_scale e
  have hlow := low_eq_quarters hb
  unfold onGrid? at h
  dsimp only at h
  generalize Nat.pow 2 (b.exponent - 2).toNat * Nat.pow 10 (-e).toNat = bit at hbit h
  generalize Nat.pow 10 e.toNat * Nat.pow 2 (2 - b.exponent).toNat = step at hstep h
  generalize (4 * b.significand - if b.narrowBelow then 1 else 2) = low at hlow h
  generalize hbelow : 4 * b.significand * bit / step = below at h
  have hpos : 0 < step := by
    rw [← Nat.cast_pos (α := ℚ), hstep]
    positivity
  -- The hits are the bounds on the two sides, and the value lies between both points.
  have hle : below * step ≤ 4 * b.significand * bit := by
    rw [← hbelow]
    apply Nat.div_mul_le_self
  have hlt : 4 * b.significand * bit < (below + 1) * step := by
    rw [← hbelow]
    apply Nat.lt_mul_of_div_lt _ hpos
    omega
  rw [← not_lt, bit_lt_step_iff hk hbit hstep, ← value_eq_quarters, not_lt] at hle
  rw [bit_lt_step_iff hk hbit hstep, ← value_eq_quarters] at hlt
  simp only [Bool.or_eq_true, Bool.and_eq_true, decide_eq_true_eq, step_lt_bit_iff hk hbit hstep,
    bit_lt_step_iff hk hbit hstep, bit_eq_step_iff hk hbit hstep, step_eq_bit_iff hk hbit hstep,
    ← high_eq_quarters, ← hlow] at h
  have hgap := b.gapBelow_pos
  have hunit : (0 : ℚ) < 2 ^ b.exponent := by positivity
  split at h
  next hupper =>
    obtain rfl := Option.some.inj h
    refine ⟨.inl ?_, hupper.1⟩
    rw [Decimal.value]
    linarith
  next =>
    split at h
    next hlower =>
      obtain rfl := Option.some.inj h
      refine ⟨hlower, .inl ?_⟩
      rw [Decimal.value]
      linarith
    next => cases h

theorem value_toDecimal (b : Binary) : b.toDecimal.value = b.value := by
  unfold toDecimal
  split
  next h =>
    obtain ⟨n, hn⟩ := Int.eq_ofNat_of_zero_le h
    simp [Decimal.value, value, hn]
  next h =>
    have hexponent : b.exponent = -(b.exponent.natAbs : Int) := by omega
    generalize b.exponent.natAbs = n at hexponent ⊢
    have hten : (10 : ℚ) ^ n = 5 ^ n * 2 ^ n := by
      rw [← mul_pow]
      norm_num
    rw [Decimal.value, value, hexponent]
    simp only [zpow_neg, zpow_natCast, Nat.pow_eq, hten]
    push_cast
    field_simp

/--
The decimal that is written for a double rounds to it.
-/
theorem attracts_shortest (b : Binary) : b.Attracts b.shortest.value := by
  unfold shortest
  split
  next hzero =>
    have hself := b.attracts_self
    have hvalue : b.value = 0 := by simp [value, hzero]
    rw [hvalue] at hself
    simpa [Decimal.value] using hself
  next hb =>
    dsimp only
    generalize List.map _ _ = grids
    cases hfound : grids.findSome? b.onGrid? with
    | none =>
      rw [Option.getD_none, value_toDecimal]
      exact b.attracts_self
    | some d =>
      obtain ⟨e, -, he⟩ := List.exists_of_findSome?_eq_some hfound
      exact attracts_of_onGrid? hb he

/-!
No double lies in the gaps beside another one.
-/

theorem gapBelow_le (b : Binary) : b.gapBelow ≤ 2 ^ b.exponent := by
  have hunit : (0 : ℚ) < 2 ^ b.exponent := by positivity
  unfold gapBelow
  split <;> linarith

theorem narrowBelow_ofFloat {x : Float} (hsig : (ofFloat x).significand = 2 ^ 52)
    (hexp : -1074 < (ofFloat x).exponent) : (ofFloat x).narrowBelow := by
  by_cases h : x.toBits.toNat / 2 ^ 52 % 2048 = 0
  · rw [ofFloat_of_subnormal h] at hexp
    exact absurd hexp (lt_irrefl _)
  · rw [ofFloat_of_normal h] at hsig hexp ⊢
    simp only [Bool.and_eq_true, decide_eq_true_eq] at hsig hexp ⊢
    omega

theorem InRange.add_le_of_lt {a b : Binary} (ha : a.InRange) (hb : b.InRange)
    (h : a.value < b.value) : a.value + 2 ^ a.exponent ≤ b.value := by
  have hexponent := ha.le_exponent
  rcases (ha.value_lt_iff hb).1 h with hexp | ⟨hexp, hsig⟩
  · exact (ha.add_unit_le hexp).trans (hb.le_value (by omega))
  · have hsig : (a.significand : ℚ) + 1 ≤ b.significand := by
      exact_mod_cast hsig
    rw [value, value, hexp, ← add_one_mul]
    exact mul_le_mul_of_nonneg_right hsig (by positivity)

theorem InRange.le_sub_half {a b : Binary} (ha : a.InRange) (h : a.exponent < b.exponent) :
    a.value ≤ 2 ^ 52 * 2 ^ b.exponent - 2 ^ b.exponent / 2 := by
  have hsig : (a.significand : ℚ) ≤ 2 ^ 53 - 1 := by
    rw [le_sub_iff_add_le]
    exact_mod_cast ha.significand_lt
  calc a.value
    _ ≤ (2 ^ 53 - 1) * 2 ^ a.exponent := mul_le_mul_of_nonneg_right hsig (by positivity)
    _ ≤ (2 ^ 53 - 1) * 2 ^ (b.exponent - 1) := by
      apply mul_le_mul_of_nonneg_left _ (by norm_num)
      exact zpow_le_zpow_right₀ one_le_two (by omega)
    _ = 2 ^ 52 * 2 ^ b.exponent - 2 ^ b.exponent / 2 := by
      rw [zpow_sub_one₀ two_ne_zero]
      ring

theorem add_gapBelow_le_of_lt {x y : Float} (h : (ofFloat y).value < (ofFloat x).value) :
    (ofFloat y).value + (ofFloat x).gapBelow ≤ (ofFloat x).value := by
  have hx := inRange_ofFloat x
  have hy := inRange_ofFloat y
  have hexponent := hy.le_exponent
  have hgap := (ofFloat x).gapBelow_le
  have hvalue : (ofFloat x).value = (ofFloat x).significand * 2 ^ (ofFloat x).exponent := rfl
  rcases (hy.value_lt_iff hx).1 h with hexp | ⟨hexp, -⟩
  · have hhalf := hy.le_sub_half hexp
    have hlead := hx.le_significand (by omega)
    by_cases hsig : (ofFloat x).significand = 2 ^ 52
    · -- The numbers below are those of the next smaller exponent.
      have hnarrow := narrowBelow_ofFloat hsig (by omega)
      rw [gapBelow, hvalue, if_pos hnarrow, hsig]
      push_cast
      linarith
    · have hsucc : (2 : ℚ) ^ 52 + 1 ≤ (ofFloat x).significand := by
        exact_mod_cast Nat.lt_of_le_of_ne hlead (Ne.symm hsig)
      have hunit : (0 : ℚ) < 2 ^ (ofFloat x).exponent := by positivity
      have hmul := mul_le_mul_of_nonneg_right hsucc hunit.le
      rw [hvalue]
      linarith
  · have hadd := hy.add_le_of_lt hx h
    rw [hexp] at hadd
    linarith

theorem abs_sub_lt_of_pos {q a b : ℚ} (h : 0 < (b - a) * (a + b - 2 * q)) :
    |q - a| < |q - b| := by
  rw [← sq_lt_sq]
  linarith

theorem abs_sub_eq_of_eq {q a b : ℚ} (h : 2 * q = a + b) : |q - a| = |q - b| := by
  have hneg : q - b = -(q - a) := by linarith
  rw [hneg, abs_neg]

theorem Attracts.nearer {x y : Float} {q : ℚ} (h : (ofFloat x).Attracts q)
    (hne : (ofFloat y).value ≠ (ofFloat x).value) :
    |q - (ofFloat x).value| < |q - (ofFloat y).value| ∨
      (ofFloat x).significand % 2 = 0 ∧ |q - (ofFloat x).value| = |q - (ofFloat y).value| := by
  rcases lt_or_gt_of_ne hne with hlt | hgt
  · have hgap := add_gapBelow_le_of_lt hlt
    have hnearer : (ofFloat x).value + (ofFloat y).value < 2 * q →
        |q - (ofFloat x).value| < |q - (ofFloat y).value| := by
      intro hmid
      exact abs_sub_lt_of_pos (mul_pos_of_neg_of_neg (by linarith) (by linarith))
    rcases h.low with hlow | ⟨heven, hlow⟩
    · exact .inl (hnearer (by linarith))
    · rcases lt_or_eq_of_le hgap with hgap | hgap
      · exact .inl (hnearer (by linarith))
      · exact .inr ⟨heven, abs_sub_eq_of_eq (by linarith)⟩
  · have hunit := (inRange_ofFloat x).add_le_of_lt (inRange_ofFloat y) hgt
    have hnearer : 2 * q < (ofFloat x).value + (ofFloat y).value →
        |q - (ofFloat x).value| < |q - (ofFloat y).value| := by
      intro hmid
      exact abs_sub_lt_of_pos (mul_pos (by linarith) (by linarith))
    rcases h.high with hhigh | ⟨heven, hhigh⟩
    · exact .inl (hnearer (by linarith))
    · rcases lt_or_eq_of_le hunit with hunit | hunit
      · exact .inl (hnearer (by linarith))
      · exact .inr ⟨heven, abs_sub_eq_of_eq (by linarith)⟩

theorem Attracts.pos {b : Binary} {q : ℚ} (h : b.Attracts q) (hb : 0 < b.value) : 0 < q := by
  have hgap := b.gapBelow_le
  have hunit : (0 : ℚ) < 2 ^ b.exponent := by positivity
  have hsig : (1 : ℚ) ≤ b.significand := by
    exact_mod_cast value_pos_iff.1 hb
  have hvalue : 2 ^ b.exponent ≤ b.value := le_mul_of_one_le_left hunit.le hsig
  rcases h.low with hlow | ⟨-, hlow⟩
  · linarith
  · linarith

end Binary

namespace Double

/--
The double that is nearest to a number. Its significand is even if another one is as near.
-/
def IsNearest (q : ℚ) (x : Float) : Prop :=
  ∀ y : Float, y.isFinite → value y ≠ value x →
    |q - value x| < |q - value y| ∨
      (Binary.ofFloat x).significand % 2 = 0 ∧ |q - value x| = |q - value y|

def written (x : Float) : ℚ :=
  if isNegative x then -(Binary.ofFloat x).shortest.value else (Binary.ofFloat x).shortest.value

theorem abs_written (x : Float) : |written x| = (Binary.ofFloat x).shortest.value := by
  have hnonneg := (Binary.ofFloat x).shortest.value_nonneg
  unfold written
  split
  · rw [abs_neg, abs_of_nonneg hnonneg]
  · rw [abs_of_nonneg hnonneg]

theorem abs_written_sub_value {x : Float} (hx : x.isFinite) :
    |written x - value x| = |(Binary.ofFloat x).shortest.value - (Binary.ofFloat x).value| := by
  rw [written, value_eq hx]
  split
  · rw [← neg_sub', abs_neg]
  · rfl

theorem abs_written_add_value {x : Float} (hx : x.isFinite) :
    |written x + value x| = |(Binary.ofFloat x).shortest.value + (Binary.ofFloat x).value| := by
  rw [written, value_eq hx]
  split
  · rw [← neg_add, abs_neg]
  · rfl

/--
What is written for a double has no other double nearer to it.
-/
theorem isNearest_written {x : Float} (hx : x.isFinite) : IsNearest (written x) x := by
  intro y hy hne
  have hattracts := (Binary.ofFloat x).attracts_shortest
  rw [abs_written_sub_value hx]
  by_cases habs : |value y| = |value x|
  · -- The other one differs in its sign only, so it lies on the other side of zero.
    have hneg := (abs_eq_abs.1 habs).resolve_left hne
    have hpos : 0 < (Binary.ofFloat x).value := by
      rw [← abs_value hx, abs_pos]
      intro hzero
      rw [hneg, hzero, neg_zero] at hne
      exact hne rfl
    have hshortest := hattracts.pos hpos
    left
    rw [hneg, sub_neg_eq_add, abs_written_add_value hx, abs_of_pos (add_pos hshortest hpos),
      abs_lt]
    constructor <;> linarith
  · rw [abs_value hy, abs_value hx] at habs
    have hle : |(Binary.ofFloat x).shortest.value - (Binary.ofFloat y).value| ≤
        |written x - value y| := by
      rw [← abs_written, ← abs_value hy]
      apply abs_abs_sub_abs_le
    rcases hattracts.nearer habs with hlt | ⟨heven, heq⟩
    · exact .inl (hlt.trans_le hle)
    · rw [← heq] at hle
      rcases lt_or_eq_of_le hle with hlt | hle
      · exact .inl hlt
      · exact .inr ⟨heven, hle⟩

end Double
end Stackline
