import Mathlib
import Stackline.Number.Double

/-!
Doubles as rational numbers.
-/

namespace Stackline

open Float.Model (Format UnpackedFloat)
open Float.Model.UnpackedFloat (Sign)

namespace Double

def sign (x : Float) : Sign :=
  if isNegative x then .negative else .positive

/-!
The fields of a double, by the number that its bits are.
-/

section Fields

def bits (x : Float) : BitVec Format.binary64.numBits :=
  x.toModel.toBits.toBitVec

theorem toNat_unpackMantissa (x : Float) :
    (UnpackedFloat.unpackMantissa (bits x)).toNat = x.toBits.toNat % 2 ^ 52 := by
  rw [UnpackedFloat.unpackMantissa_def, BitVec.extractLsb'_toNat, Nat.shiftRight_zero]
  rfl

theorem toNat_unpackExponent (x : Float) :
    (UnpackedFloat.unpackExponent (bits x)).toNat = x.toBits.toNat / 2 ^ 52 % 2048 := by
  rw [UnpackedFloat.unpackExponent_def, BitVec.extractLsb'_toNat, Nat.shiftRight_eq_div_pow]
  rfl

theorem unpackSign_eq_zero_iff (x : Float) :
    UnpackedFloat.unpackSign (bits x) = 0#1 ↔ x.toBits.toNat < 2 ^ 63 := by
  have hlt : x.toBits.toNat < 2 ^ 64 := x.toBits.toNat_lt
  have hbit : (UnpackedFloat.unpackSign (bits x)).toNat = x.toBits.toNat / 2 ^ 63 % 2 := by
    rw [UnpackedFloat.unpackSign_def, BitVec.extractLsb'_toNat, Nat.shiftRight_eq_div_pow]
    rfl
  rw [← BitVec.toNat_inj, hbit, BitVec.toNat_ofNat]
  omega

theorem ofBitVec_unpackSign (x : Float) :
    Sign.ofBitVec (UnpackedFloat.unpackSign (bits x)) = sign x := by
  unfold Sign.ofBitVec sign isNegative
  simp only [unpackSign_eq_zero_iff, decide_eq_true_eq]
  split <;> split <;> first | rfl | omega

theorem toNat_append_implicit (m : BitVec 52) : (1#1 ++ m).toNat = 2 ^ 52 + m.toNat := by
  rw [BitVec.toNat_append, ← Nat.shiftLeft_add_eq_or_of_lt m.isLt]
  rfl

end Fields

end Double

theorem Binary.ofFloat_of_subnormal {x : Float} (h : x.toBits.toNat / 2 ^ 52 % 2048 = 0) :
    ofFloat x = ⟨x.toBits.toNat % 2 ^ 52, -1074, false⟩ :=
  if_pos h

theorem Binary.ofFloat_of_normal {x : Float} (h : x.toBits.toNat / 2 ^ 52 % 2048 ≠ 0) :
    ofFloat x = ⟨2 ^ 52 + x.toBits.toNat % 2 ^ 52, (x.toBits.toNat / 2 ^ 52 % 2048 : Nat) - 1075,
      x.toBits.toNat % 2 ^ 52 = 0 && 1 < x.toBits.toNat / 2 ^ 52 % 2048⟩ :=
  if_neg h

/--
The parts that a double can have. Only at the least exponent the leading bit may be missing.
-/
structure Binary.InRange (b : Binary) : Prop where
  significand_lt : b.significand < 2 ^ 53
  le_exponent : -1074 ≤ b.exponent
  le_significand : -1074 < b.exponent → 2 ^ 52 ≤ b.significand

theorem Binary.inRange_ofFloat (x : Float) : (ofFloat x).InRange := by
  have hlt := Nat.mod_lt x.toBits.toNat (Nat.two_pow_pos 52)
  by_cases h : x.toBits.toNat / 2 ^ 52 % 2048 = 0
  · rw [ofFloat_of_subnormal h]
    exact ⟨by dsimp only; omega, by dsimp only; omega, by dsimp only; omega⟩
  · rw [ofFloat_of_normal h]
    exact ⟨by dsimp only; omega, by dsimp only; omega, by dsimp only; omega⟩

namespace Binary

def value (b : Binary) : ℚ :=
  b.significand * 2 ^ b.exponent

theorem value_nonneg (b : Binary) : 0 ≤ b.value := by
  unfold value
  positivity

theorem value_pos_iff {b : Binary} : 0 < b.value ↔ 0 < b.significand := by
  rw [value, mul_pos_iff_of_pos_right (by positivity), Nat.cast_pos]

theorem InRange.add_unit_le {a b : Binary} (ha : a.InRange) (h : a.exponent < b.exponent) :
    a.value + 2 ^ a.exponent ≤ 2 ^ 52 * 2 ^ b.exponent := by
  have hsig : (a.significand : ℚ) + 1 ≤ 2 ^ 53 := by
    exact_mod_cast ha.significand_lt
  calc a.value + 2 ^ a.exponent
    _ = (a.significand + 1) * 2 ^ a.exponent := by
      rw [value]
      ring
    _ ≤ 2 ^ 53 * 2 ^ a.exponent := mul_le_mul_of_nonneg_right hsig (by positivity)
    _ = 2 ^ 52 * 2 ^ (a.exponent + 1) := by
      rw [zpow_add₀ two_ne_zero]
      ring
    _ ≤ 2 ^ 52 * 2 ^ b.exponent := by
      apply mul_le_mul_of_nonneg_left _ (by positivity)
      exact zpow_le_zpow_right₀ one_le_two (by omega)

theorem InRange.le_value {b : Binary} (hb : b.InRange) (h : -1074 < b.exponent) :
    2 ^ 52 * 2 ^ b.exponent ≤ b.value := by
  apply mul_le_mul_of_nonneg_right _ (by positivity)
  exact_mod_cast hb.le_significand h

theorem InRange.value_lt {a b : Binary} (ha : a.InRange) (hb : b.InRange)
    (h : a.exponent < b.exponent) : a.value < b.value := by
  have hexponent := ha.le_exponent
  have hle := hb.le_value (by omega)
  have hadd := ha.add_unit_le h
  have hunit : (0 : ℚ) < 2 ^ a.exponent := by positivity
  linarith

/--
Numbers in range are ordered by their exponents first.
-/
theorem InRange.value_lt_iff {a b : Binary} (ha : a.InRange) (hb : b.InRange) :
    a.value < b.value ↔
      a.exponent < b.exponent ∨ a.exponent = b.exponent ∧ a.significand < b.significand := by
  rcases lt_trichotomy a.exponent b.exponent with h | h | h
  · simp [h, ha.value_lt hb h]
  · rw [value, value, h, mul_lt_mul_iff_left₀ (by positivity), Nat.cast_lt]
    simp
  · have := hb.value_lt ha h
    constructor
    · intro hlt
      exact absurd hlt (lt_asymm this)
    · omega

end Binary

namespace Double

inductive Unpacks (x : Float) : UnpackedFloat → Prop where
  | notANumber : Unpacks x .notANumber
  | infinity : Unpacks x (.infinity (sign x))
  | zero (h : (Binary.ofFloat x).significand = 0) : Unpacks x (.zero (sign x))
  | finite (h : 0 < (Binary.ofFloat x).significand) :
    Unpacks x (.finite (sign x) (Binary.ofFloat x).significand (Binary.ofFloat x).exponent h)

theorem Unpacks.finite_of_eq {x : Float} {m : Nat} {e : Int} {hpos : 0 < m}
    (hm : (Binary.ofFloat x).significand = m) (he : (Binary.ofFloat x).exponent = e) :
    Unpacks x (.finite (sign x) m e hpos) := by
  subst hm he
  exact .finite hpos

theorem unpacks (x : Float) : Unpacks x x.toModel.unpack := by
  have hunpack : x.toModel.unpack = UnpackedFloat.unpack Format.binary64 (bits x) := rfl
  have hm := toNat_unpackMantissa x
  have he := toNat_unpackExponent x
  rw [hunpack]
  unfold UnpackedFloat.unpack
  simp only [ofBitVec_unpackSign]
  split_ifs with hlast hmant hfirst hmant
  · exact .infinity
  · exact .notANumber
  · rw [hfirst, BitVec.toNat_ofNat] at he
    rw [hmant, BitVec.toNat_ofNat] at hm
    apply Unpacks.zero
    rw [Binary.ofFloat_of_subnormal he.symm]
    exact hm.symm
  · rw [hfirst, BitVec.toNat_ofNat] at he
    apply Unpacks.finite_of_eq
    · rw [Binary.ofFloat_of_subnormal he.symm, hm]
    · rw [Binary.ofFloat_of_subnormal he.symm, hfirst]
      rfl
  · have hne : x.toBits.toNat / 2 ^ 52 % 2048 ≠ 0 := by
      rw [← he]
      intro h
      exact hfirst (BitVec.toNat_inj.1 h)
    apply Unpacks.finite_of_eq
    · rw [Binary.ofFloat_of_normal hne, toNat_append_implicit, hm]
    · rw [Binary.ofFloat_of_normal hne, he]
      rfl

/--
A finite double is a zero, or it has a sign and the parts of `Binary.ofFloat`.
-/
theorem unpack_of_isFinite {x : Float} (h : x.isFinite) :
    (x.toModel.unpack = .zero (sign x) ∧ (Binary.ofFloat x).significand = 0) ∨
      ∃ hpos, x.toModel.unpack =
        .finite (sign x) (Binary.ofFloat x).significand (Binary.ofFloat x).exponent hpos := by
  have hfinite : x.toModel.unpack.isFinite := h
  have hunpacks := unpacks x
  generalize x.toModel.unpack = u at hfinite hunpacks ⊢
  cases hunpacks with
  | notANumber => cases hfinite
  | infinity => cases hfinite
  | zero hzero => exact .inl ⟨rfl, hzero⟩
  | finite hpos => exact .inr ⟨hpos, rfl⟩

/--
The bits of a double with those of a positive sign.
-/
def unsignedBits (x : Float) : BitVec Format.binary64.numBits :=
  UnpackedFloat.packComponents Format.binary64 .positive (UnpackedFloat.unpackExponent (bits x))
    (UnpackedFloat.unpackMantissa (bits x))

theorem valid_unsignedBits (x : Float) : Format.binary64.Valid (unsignedBits x) := by
  constructor
  intro hexp hmant
  rw [unsignedBits, UnpackedFloat.unpackExponent_packComponents] at hexp
  rw [unsignedBits, UnpackedFloat.unpackMantissa_packComponents] at hmant
  have hnan : bits x = _ := x.toModel.valid.eq_packedNaN hexp hmant
  rw [unsignedBits, hnan, UnpackedFloat.packedNaN, UnpackedFloat.unpackExponent_packComponents,
    UnpackedFloat.unpackMantissa_packComponents]

theorem unpack_unsignedBits (x : Float) :
    UnpackedFloat.unpack Format.binary64 (unsignedBits x) = x.toModel.unpack.abs := by
  have hunpack : x.toModel.unpack = UnpackedFloat.unpack Format.binary64 (bits x) := rfl
  rw [hunpack]
  simp only [UnpackedFloat.unpack, unsignedBits, UnpackedFloat.unpackExponent_packComponents,
    UnpackedFloat.unpackMantissa_packComponents, UnpackedFloat.unpackSign_packComponents,
    Sign.ofBitVec_toBitVec]
  split_ifs <;> rfl

theorem unpack_abs (x : Float) : x.abs.toModel.unpack = x.toModel.unpack.abs := by
  have hpack := UnpackedFloat.pack_unpack_of_valid (valid_unsignedBits x)
  rw [unpack_unsignedBits] at hpack
  rw [← unpack_unsignedBits, ← hpack]
  rfl

theorem isFinite_iff {x : Float} :
    x.isFinite ↔ x.isNaN = false ∧ (x.abs == infinity) = false := by
  have hfinite : x.isFinite = x.toModel.unpack.isFinite := rfl
  have hnan : x.isNaN = x.toModel.unpack.isNaN := rfl
  have hinfinite : (x.abs == infinity) = x.toModel.unpack.abs.beq (.infinity .positive) := by
    rw [← unpack_abs]
    rfl
  rw [hfinite, hnan, hinfinite]
  cases x.toModel.unpack with
  | notANumber => simp [UnpackedFloat.isFinite, UnpackedFloat.isNaN]
  | infinity s => exact ⟨nofun, fun h => nomatch h.2⟩
  | zero s => exact ⟨fun _ => ⟨rfl, rfl⟩, fun _ => rfl⟩
  | finite s m e h => exact ⟨fun _ => ⟨rfl, rfl⟩, fun _ => rfl⟩

def value (x : Float) : ℚ :=
  match x.toModel.unpack with
  | .finite s m e _ => s.apply m * 2 ^ e
  | _ => 0

theorem value_eq {x : Float} (h : x.isFinite) :
    value x = if isNegative x then -(Binary.ofFloat x).value else (Binary.ofFloat x).value := by
  unfold value
  rcases unpack_of_isFinite h with ⟨hunpack, hzero⟩ | ⟨hpos, hunpack⟩
  · rw [hunpack, Binary.value, hzero]
    simp
  · rw [hunpack, sign, Binary.value]
    cases isNegative x <;> simp [Sign.apply]

theorem abs_value {x : Float} (h : x.isFinite) : |value x| = (Binary.ofFloat x).value := by
  rw [value_eq h]
  split
  · rw [abs_neg, abs_of_nonneg (Binary.value_nonneg _)]
  · rw [abs_of_nonneg (Binary.value_nonneg _)]

/-!
Comparisons of doubles are comparisons of their numbers.
-/

theorem lt_iff {x y : Float} : x < y ↔ x.toModel.unpack.lt y.toModel.unpack :=
  decide_eq_true_iff

theorem le_iff {x y : Float} : x ≤ y ↔ x.toModel.unpack.le y.toModel.unpack :=
  decide_eq_true_iff

theorem lt_finite_iff {m n : Nat} {e f : Int} {hm : 0 < m} {hn : 0 < n} :
    UnpackedFloat.lt (.finite .positive m e hm) (.finite .positive n f hn) ↔
      e < f ∨ e = f ∧ m < n := by
  simp only [UnpackedFloat.lt, UnpackedFloat.compare, beq_iff_eq, Option.some.injEq,
    Ordering.then_eq_lt, compare_lt_iff_lt, compare_eq_iff_eq]

theorem le_finite_iff {m n : Nat} {e f : Int} {hm : 0 < m} {hn : 0 < n} :
    UnpackedFloat.le (.finite .positive m e hm) (.finite .positive n f hn) ↔
      ¬(f < e ∨ f = e ∧ n < m) := by
  simp only [UnpackedFloat.le, UnpackedFloat.compare, Option.any_some, Ordering.isLE_iff_ne_gt,
    Ordering.then_eq_gt, compare_gt_iff_gt, compare_eq_iff_eq, eq_comm (a := f)]

/--
A double that has the parts of a positive number.
-/
structure Is (y : Float) (c : Binary) : Prop where
  inRange : c.InRange
  pos : 0 < c.significand
  unpack_eq : y.toModel.unpack = .finite .positive c.significand c.exponent pos

theorem Is.abs_lt_iff {x y : Float} {c : Binary} (hy : Is y c) (hx : x.isFinite) :
    x.abs < y ↔ (Binary.ofFloat x).value < c.value := by
  rw [lt_iff, unpack_abs, hy.unpack_eq]
  rcases unpack_of_isFinite hx with ⟨hunpack, hzero⟩ | ⟨hpos, hunpack⟩
  · have hvalue : (Binary.ofFloat x).value = 0 := by simp [Binary.value, hzero]
    rw [hunpack, hvalue, Binary.value_pos_iff]
    exact iff_of_true rfl hy.pos
  · rw [hunpack, UnpackedFloat.abs, lt_finite_iff,
      (Binary.inRange_ofFloat x).value_lt_iff hy.inRange]

theorem Is.le_abs_iff {x y : Float} {c : Binary} (hy : Is y c) (hx : x.isFinite) :
    y ≤ x.abs ↔ c.value ≤ (Binary.ofFloat x).value := by
  rw [le_iff, unpack_abs, hy.unpack_eq]
  rcases unpack_of_isFinite hx with ⟨hunpack, hzero⟩ | ⟨hpos, hunpack⟩
  · have hvalue : (Binary.ofFloat x).value = 0 := by simp [Binary.value, hzero]
    rw [hunpack, hvalue, ← not_lt, Binary.value_pos_iff]
    exact iff_of_false nofun (not_not_intro hy.pos)
  · rw [hunpack, UnpackedFloat.abs, le_finite_iff, ← not_lt,
      (Binary.inRange_ofFloat x).value_lt_iff hy.inRange]

theorem abs_ne_zero_iff {x : Float} (hx : x.isFinite) :
    x.abs != 0 ↔ 0 < (Binary.ofFloat x).value := by
  have hbeq : (x.abs == 0) = x.toModel.unpack.abs.beq (.zero .positive) := by
    rw [← unpack_abs]
    rfl
  rw [bne, hbeq, Binary.value_pos_iff]
  rcases unpack_of_isFinite hx with ⟨hunpack, hzero⟩ | ⟨hpos, hunpack⟩
  · rw [hunpack, hzero]
    exact iff_of_false nofun (Nat.lt_irrefl 0)
  · rw [hunpack]
    exact iff_of_true rfl hpos

/--
The bound above which exponents are written is a double.
-/
theorem is_upper : Is 1e16 ⟨5000000000000000, 1, false⟩ where
  inRange := ⟨by decide, by decide, by decide⟩
  pos := by decide
  unpack_eq := rfl

/--
The bound below which exponents are written is no double. The nearest double lies above it.
-/
theorem is_lower : Is 1e-4 ⟨7378697629483821, -66, false⟩ where
  inRange := ⟨by decide, by decide, by decide⟩
  pos := by decide
  unpack_eq := rfl

theorem upper_le_abs_iff {x : Float} (hx : x.isFinite) :
    1e16 ≤ x.abs ↔ 10 ^ 16 ≤ (Binary.ofFloat x).value := by
  rw [is_upper.le_abs_iff hx]
  norm_num [Binary.value]

theorem abs_lt_lower_iff {x : Float} (hx : x.isFinite) :
    x.abs < 1e-4 ↔ (Binary.ofFloat x).value < 1 / 10 ^ 4 := by
  rw [is_lower.abs_lt_iff hx]
  have hrange := Binary.inRange_ofFloat x
  constructor
  · intro h
    rcases (hrange.value_lt_iff is_lower.inRange).1 h with hexp | ⟨hexp, hsig⟩
    · have hlt := hrange.value_lt (b := ⟨2 ^ 52, -66, false⟩)
        ⟨by decide, by decide, by decide⟩ hexp
      refine hlt.trans ?_
      norm_num [Binary.value]
    · have hsig : ((Binary.ofFloat x).significand : ℚ) ≤ 7378697629483820 := by
        exact_mod_cast Nat.le_of_lt_succ hsig
      rw [Binary.value, hexp]
      norm_num
      linarith
  · intro h
    refine h.trans ?_
    norm_num [Binary.value]

theorem isExtreme_iff {x : Float} (hx : x.isFinite) :
    isExtreme x ↔ 10 ^ 16 ≤ |value x| ∨ 0 < |value x| ∧ |value x| < 1 / 10 ^ 4 := by
  rw [abs_value hx, ← upper_le_abs_iff hx, ← abs_ne_zero_iff hx, ← abs_lt_lower_iff hx]
  simp only [isExtreme, Bool.or_eq_true, Bool.and_eq_true, decide_eq_true_eq]

end Double
end Stackline
