import Mathlib
import Stackline.Proofs.Number.Double

/-!
Whole numbers as doubles. Rounding keeps a magnitude of at least one, so the only whole number that
becomes a zero is zero.
-/

namespace Stackline
namespace Double

open Float.Model (Format UnpackedFloat totalExponent)
open Float.Model.UnpackedFloat

/--
The infinities and the normal numbers that are at least as far from zero as one is.
-/
inductive AtLeastOne : UnpackedFloat → Prop where
  | infinity {s : Sign} : AtLeastOne (.infinity s)
  | finite {s : Sign} {m : Nat} {e : Int} {hpos : 0 < m} (hlow : 2 ^ 52 ≤ m) (hhigh : m < 2 ^ 53)
    (hexponent : -52 ≤ e) : AtLeastOne (.finite s m e hpos)

theorem AtLeastOne.beq_zero {f : UnpackedFloat} (h : AtLeastOne f) (s : Sign) :
    f.beq (.zero s) = false := by
  cases h with
  | @infinity sign => cases sign <;> rfl
  | @finite sign => cases sign <;> rfl

theorem AtLeastOne.neg {f : UnpackedFloat} (h : AtLeastOne f) : AtLeastOne f.neg := by
  cases h with
  | infinity => exact .infinity
  | finite hlow hhigh hexponent => exact .finite hlow hhigh hexponent

/-!
Rounding. A significand is shifted to 53 bits, and if rounding up takes one bit more, that bit is
shifted out again.
-/

theorem mantissa_shiftRight (em : ExtendedMantissa) (k : Nat) :
    (em >>> k).mantissa = em.mantissa / 2 ^ k := by
  have hrepeat : em >>> k = k.repeat ExtendedMantissa.shiftRightOne em := rfl
  rw [hrepeat]
  induction k with
  | zero => simp [Nat.repeat]
  | succ k ih =>
    rw [Nat.repeat, ExtendedMantissa.shiftRightOne, ih rfl, Nat.div_div_eq_div_mul, Nat.pow_succ]

theorem roundedMantissa_bounds (em : ExtendedMantissa) :
    em.mantissa ≤ em.roundedMantissa ∧ em.roundedMantissa ≤ em.mantissa + 1 := by
  have hparity := Nat.mod_lt em.mantissa (Nat.two_pos)
  obtain ⟨m, round, sticky⟩ := em
  cases round <;> cases sticky <;> constructor <;>
    simp only [ExtendedMantissa.roundedMantissa, ExtendedMantissa.accuracy,
      Accuracy.roundToNearestEven] at hparity ⊢ <;> omega

theorem shiftToTargetExponent_eq {m : Nat} {e : Int} (hm : 2 ^ 52 ≤ m)
    (hone : 0 ≤ m.log2 + e) :
    shiftToTargetExponent Format.binary64 m e .exact =
      (ExtendedMantissa.ofMantissaAndAccuracy m .exact >>> (m.log2 - 52),
        e + (m.log2 - 52 : Nat)) := by
  have hlog : 52 ≤ m.log2 := (Nat.le_log2 (by omega)).2 hm
  have htarget : Format.binary64.targetExponent (totalExponent m e) = m.log2 + e - 52 := by
    simp only [Format.targetExponent, totalExponent, Format.mantissaBits, Format.minExponent]
    omega
  have hshift : (Format.binary64.targetExponent (totalExponent m e) - e).toNat = m.log2 - 52 := by
    omega
  rw [shiftToTargetExponent, shiftToExponent, hshift]

theorem div_pow_log2_bounds {m : Nat} (hm : 2 ^ 52 ≤ m) :
    2 ^ 52 ≤ m / 2 ^ (m.log2 - 52) ∧ m / 2 ^ (m.log2 - 52) < 2 ^ 53 := by
  have hlog : 52 ≤ m.log2 := (Nat.le_log2 (by omega)).2 hm
  constructor
  · rw [Nat.le_div_iff_mul_le (Nat.two_pow_pos _), ← Nat.pow_add]
    have hsum : 52 + (m.log2 - 52) = m.log2 := by omega
    rw [hsum]
    exact Nat.log2_self_le (by omega)
  · rw [Nat.div_lt_iff_lt_mul (Nat.two_pow_pos _), ← Nat.pow_add]
    have hsum : 53 + (m.log2 - 52) = m.log2 + 1 := by omega
    rw [hsum]
    exact Nat.lt_log2_self

theorem atLeastOne_roundWithAccuracy {s : Sign} {m : Nat} {e : Int} (hm : 2 ^ 52 ≤ m)
    (hone : 0 ≤ m.log2 + e) : AtLeastOne (roundWithAccuracy Format.binary64 s m e .exact) := by
  have hlog : 52 ≤ m.log2 := (Nat.le_log2 (by omega)).2 hm
  obtain ⟨hlow, hhigh⟩ := div_pow_log2_bounds hm
  unfold roundWithAccuracy
  rw [shiftToTargetExponent_eq hm hone]
  dsimp only
  have hmantissa : (ExtendedMantissa.ofMantissaAndAccuracy m .exact >>> (m.log2 - 52)).mantissa =
      m / 2 ^ (m.log2 - 52) := mantissa_shiftRight _ _
  generalize ExtendedMantissa.ofMantissaAndAccuracy m .exact >>> (m.log2 - 52) = em at hmantissa ⊢
  have hrounded := roundedMantissa_bounds em
  generalize em.roundedMantissa = r at hrounded ⊢
  have hr : 2 ^ 52 ≤ r := by omega
  have hrlog : 52 ≤ r.log2 := (Nat.le_log2 (by omega)).2 hr
  rw [shiftToTargetExponent_eq hr (by omega)]
  dsimp only
  obtain ⟨hlow, hhigh⟩ := div_pow_log2_bounds hr
  have hfinal : (ExtendedMantissa.ofMantissaAndAccuracy r .exact >>> (r.log2 - 52)).mantissa =
      r / 2 ^ (r.log2 - 52) := mantissa_shiftRight _ _
  rw [← hfinal] at hlow hhigh
  rw [dif_neg (by omega)]
  exact .finite hlow hhigh (by omega)

/-!
Packing. The exponent field of a number that is at least one is never the least one.
-/

theorem unpack_packedInfinity (s : Sign) :
    UnpackedFloat.unpack Format.binary64 (packedInfinity Format.binary64 s) = .infinity s := by
  simp only [UnpackedFloat.unpack, packedInfinity, unpackExponent_packComponents,
    unpackMantissa_packComponents, unpackSign_packComponents, Sign.ofBitVec_toBitVec]
  rfl

theorem atLeastOne_unpack_packComponents (s : Sign) {field : Nat} (hlow : 1023 ≤ field)
    (hhigh : field < 2047) (m : BitVec 52) :
    AtLeastOne (UnpackedFloat.unpack Format.binary64
      (packComponents Format.binary64 s (BitVec.ofNat 11 field) m)) := by
  have hfield : (BitVec.ofNat 11 field).toNat = field := by
    rw [BitVec.toNat_ofNat, Nat.mod_eq_of_lt (by omega)]
  have hlast : BitVec.ofNat 11 field ≠ -1#11 := by
    intro heq
    rw [heq] at hfield
    exact absurd hfield.symm (Nat.ne_of_lt hhigh)
  have hfirst : BitVec.ofNat 11 field ≠ 0#11 := by
    intro heq
    rw [heq, BitVec.toNat_ofNat] at hfield
    omega
  have hbias : (Format.binary64.exponentBias : Int) = 1023 := rfl
  have hmantissa := m.isLt
  have hsignificand := toNat_append_implicit m
  simp only [UnpackedFloat.unpack, unpackExponent_packComponents, unpackMantissa_packComponents]
  rw [if_neg hlast, if_neg hfirst]
  apply AtLeastOne.finite
  · omega
  · omega
  · omega

theorem AtLeastOne.unpack_pack {f : UnpackedFloat} (h : AtLeastOne f) :
    AtLeastOne (Float.Model.pack f).unpack := by
  have hunpack : (Float.Model.pack f).unpack =
    UnpackedFloat.unpack Format.binary64 (UnpackedFloat.pack Format.binary64 f) := rfl
  rw [hunpack]
  cases h with
  | @infinity s =>
    rw [UnpackedFloat.pack, unpack_packedInfinity]
    exact .infinity
  | @finite s m e hpos hlow hhigh hexponent =>
    have hlog : m.log2 + 1 = Format.binary64.mantissaBits := by
      rw [(Nat.log2_eq_iff (Nat.ne_of_gt hpos)).2 ⟨hlow, hhigh⟩]
      rfl
    have hbias : (Format.binary64.exponentBias : Int) = 1023 := rfl
    rw [UnpackedFloat.pack]
    dsimp only
    rw [if_pos hlog]
    split
    next =>
      rw [unpack_packedInfinity]
      exact .infinity
    next hfinite =>
      apply atLeastOne_unpack_packComponents
      · omega
      · omega

/-!
Conversion.
-/

theorem log2_add_log2_le {m n : Nat} (hm : m ≠ 0) (hn : n ≠ 0) :
    m.log2 + n.log2 ≤ (m * n).log2 := by
  rw [Nat.le_log2 (Nat.mul_ne_zero hm hn), Nat.pow_add]
  exact Nat.mul_le_mul (Nat.log2_self_le hm) (Nat.log2_self_le hn)

theorem add_le_log2_shiftLeft {n : Nat} (hn : n ≠ 0) (k : Nat) : n.log2 + k ≤ (n <<< k).log2 := by
  have hle := log2_add_log2_le hn (Nat.two_pow_pos k).ne'
  rwa [Nat.log2_two_pow, ← Nat.shiftLeft_eq] at hle

theorem le_of_le_log2 {m k : Nat} (hk : 0 < k) (h : k ≤ m.log2) : 2 ^ k ≤ m := by
  apply (Nat.le_log2 _).1 h
  rintro rfl
  rw [Nat.log2_zero] at h
  omega

theorem atLeastOne_ofNat {n : Nat} (hn : n ≠ 0) :
    AtLeastOne (UnpackedFloat.ofNat Format.binary64 n) := by
  have hpos : compare (n : Int) 0 = .gt := by
    rw [compare_gt_iff_gt]
    omega
  have htarget : Format.binary64.targetExponent (totalExponent n 0) = n.log2 - 52 := by
    simp only [Format.targetExponent, totalExponent, Format.mantissaBits, Format.minExponent]
    omega
  have hlog := add_le_log2_shiftLeft hn (0 - ((n.log2 : Int) - 52)).toNat
  rw [UnpackedFloat.ofNat, UnpackedFloat.ofInt, UnpackedFloat.normalize, hpos]
  dsimp only
  rw [Int.toNat_natCast, UnpackedFloat.round, htarget, decreaseExponent]
  apply atLeastOne_roundWithAccuracy
  · exact le_of_le_log2 (by decide) (by omega)
  · omega

theorem AtLeastOne.mul_one {f : UnpackedFloat} (h : AtLeastOne f) :
    AtLeastOne (f.mul Format.binary64 (.finite .positive (2 ^ 52) (-52) (by decide))) := by
  cases h with
  | infinity => exact .infinity
  | @finite s m e hpos hlow hhigh hexponent =>
    have hlog := add_le_log2_shiftLeft hpos.ne' 52
    have hm : 52 ≤ m.log2 := (Nat.le_log2 hpos.ne').2 hlow
    rw [Nat.shiftLeft_eq] at hlog
    apply atLeastOne_roundWithAccuracy
    · omega
    · omega

theorem atLeastOne_unpack_toFloat {n : UInt64} (hn : n.toNat ≠ 0) :
    AtLeastOne n.toFloat.toModel.unpack :=
  (atLeastOne_ofNat hn).unpack_pack

theorem AtLeastOne.unpack_mul_one {x : Float} (h : AtLeastOne x.toModel.unpack) :
    AtLeastOne (x * Float.ofBits 0x3FF0000000000000).toModel.unpack := by
  have hone : (Float.ofBits 0x3FF0000000000000).toModel.unpack =
      .finite .positive (2 ^ 52) (-52) (by decide) := rfl
  have hmul : (x * Float.ofBits 0x3FF0000000000000).toModel.unpack =
    (Float.Model.pack (x.toModel.unpack.mul Format.binary64
      (Float.ofBits 0x3FF0000000000000).toModel.unpack)).unpack := rfl
  rw [hmul, hone]
  exact h.mul_one.unpack_pack

theorem atLeastOne_ofScientific {n : Nat} (hn : n ≠ 0) :
    AtLeastOne (UnpackedFloat.ofScientific Format.binary64 n 0) := by
  have hlog := add_le_log2_shiftLeft hn Format.binary64.mantissaBits
  have hbits : Format.binary64.mantissaBits = 53 := rfl
  have hlimit : (0 : Int) ≤ 2 ^ Format.binary64.exponentBits := by positivity
  rw [UnpackedFloat.ofScientific, dif_neg hn, if_neg (by omega), if_neg (by omega),
    if_pos (le_refl 0), UnpackedFloat.mul]
  simp only [Int.toNat_zero, pow_zero, Nat.mul_one, Int.add_zero]
  apply atLeastOne_roundWithAccuracy
  · exact le_of_le_log2 (by decide) (by omega)
  · omega

theorem atLeastOne_unpack_ofNat {n : Nat} (hn : n ≠ 0) :
    AtLeastOne (Float.ofNat n).toModel.unpack := by
  have hscientific : Float.ofNat n = Float.ofScientific n false 0 := rfl
  rw [hscientific, Float.ofScientific]
  split
  next hsmall =>
    -- A small number is converted as a word and multiplied by one.
    apply AtLeastOne.unpack_mul_one
    apply atLeastOne_unpack_toFloat
    rw [Nat.toUInt64, UInt64.toNat_ofNat']
    omega
  next =>
    exact (atLeastOne_ofScientific hn).unpack_pack

theorem ofInt_beq_zero_iff {n : Int} : Float.ofInt n == 0 ↔ n = 0 := by
  have hbeq (x : Float) : (x == 0) = x.toModel.unpack.beq (.zero .positive) := rfl
  rw [hbeq]
  match n with
  | .ofNat 0 => exact iff_of_true rfl rfl
  | .ofNat (n + 1) =>
    have hone : AtLeastOne (Float.ofInt (.ofNat (n + 1))).toModel.unpack :=
      atLeastOne_unpack_ofNat (Nat.succ_ne_zero n)
    rw [hone.beq_zero]
    exact iff_of_false nofun nofun
  | .negSucc n =>
    have hone : AtLeastOne (Float.ofInt (.negSucc n)).toModel.unpack :=
      (atLeastOne_unpack_ofNat (Nat.succ_ne_zero n)).neg.unpack_pack
    rw [hone.beq_zero]
    exact iff_of_false nofun nofun

end Double
end Stackline
