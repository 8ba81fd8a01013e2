import Mathlib
import Stackline.Proofs.Arithmetic
import Stackline.Proofs.Number.Conversion

/-!
Arithmetic branch by branch. Here every operator checks its own divisor, a quotient and a remainder
of words are taken one after the other, and powers are told apart by their base before an exponent
is cut to 32 bits. Main statement: these branches are the arithmetic of the language.
-/

namespace Stackline

namespace Integer

/--
Whether words hold the quotient and the remainder of a division.
-/
def Divisible (a b : Int64) : Prop :=
  b ≠ 0 ∧ ¬(a = Int64.minValue ∧ b = -1)

instance (a b : Int64) : Decidable (Divisible a b) :=
  inferInstanceAs (Decidable (_ ∧ _))

def quotient? (a b : Int64) : Option Int64 :=
  if Divisible a b then some (a / b) else none

def remainder? (a b : Int64) : Option Int64 :=
  if Divisible a b then some (a % b) else none

/--
The quotient rounded down, from the two operations that round toward zero.
-/
def floorQuotient? (a b : Int64) : Option Int64 := do
  let quotient ← quotient? a b
  let remainder ← remainder? a b
  return if RoundedUp remainder.toInt b.toInt then quotient - 1 else quotient

/--
A power of a word for an exponent that is not negative. Whether the powers of -1 are positive is
seen from the remainder of the exponent.
-/
def power? (a b : Int64) : Option Int64 :=
  if a = 0 ∨ a = 1 then
    some (if b = 0 then 1 else a)
  else if a = -1 then
    some (if b % 2 = 0 then 1 else -1)
  else if b.toInt < 2 ^ 32 then
    fit? (a.toInt ^ b.toInt.toNat)
  else
    none

theorem floorQuotient?_eq {a b : Int64} (hb : b ≠ 0) :
    floorQuotient? a b = fit? (a.toInt.fdiv b.toInt) := by
  unfold floorQuotient? quotient? remainder?
  by_cases h : Divisible a b
  · rw [if_pos h, if_pos h]
    exact (fit?_eq_some_iff.2 (toInt_floorQuotient hb h.2)).symm
  · obtain ⟨rfl, rfl⟩ : a = Int64.minValue ∧ b = -1 := by
      by_contra hlast
      exact h ⟨hb, hlast⟩
    rfl

theorem neg_one_pow_toNat {b : Int64} (hb : 0 ≤ b.toInt) :
    (-1 : Int) ^ b.toInt.toNat = (if b % 2 = 0 then 1 else -1 : Int64).toInt := by
  have hrem : b % 2 = 0 ↔ b.toInt % 2 = 0 := by
    have htwo : (2 : Int64).toInt = 2 := rfl
    rw [← toInt_eq_zero_iff, Int64.toInt_mod, htwo, Int.tmod_eq_emod_of_nonneg hb]
  have hparity : b % 2 = 0 ↔ Even b.toInt.toNat := by
    rw [hrem, Nat.even_iff]
    omega
  by_cases h : b % 2 = 0
  · rw [if_pos h, (hparity.1 h).neg_one_pow]
    rfl
  · rw [if_neg h, (Nat.not_even_iff_odd.1 (mt hparity.2 h)).neg_one_pow]
    rfl

theorem pow_toNat_of_idempotent {a b : Int64} (ha : a = 0 ∨ a = 1) (hb : 0 ≤ b.toInt) :
    a.toInt ^ b.toInt.toNat = (if b = 0 then 1 else a).toInt := by
  by_cases hzero : b = 0
  · rw [if_pos hzero, hzero]
    exact pow_zero _
  · have hexponent : b.toInt.toNat ≠ 0 := by
      have := mt toInt_eq_zero_iff.1 hzero
      omega
    rw [if_neg hzero]
    rcases ha with rfl | rfl
    · exact zero_pow hexponent
    · exact one_pow _

theorem power?_eq {a b : Int64} (hb : 0 ≤ b.toInt) :
    power? a b = fit? (a.toInt ^ b.toInt.toNat) := by
  unfold power?
  by_cases hidempotent : a = 0 ∨ a = 1
  · rw [if_pos hidempotent, pow_toNat_of_idempotent hidempotent hb, fit?_toInt]
  · rw [if_neg hidempotent]
    by_cases hneg : a = -1
    · have hpow : (-1 : Int64).toInt ^ b.toInt.toNat = _ := neg_one_pow_toNat hb
      rw [if_pos hneg, hneg, hpow, fit?_toInt]
    · rw [if_neg hneg]
      split
      next => rfl
      next hlarge =>
        have hunit : ¬a.toInt.natAbs ≤ 1 := by
          rw [natAbs_toInt_le_one_iff]
          tauto
        symm
        rw [fit?_eq_none_iff_not_representable]
        exact not_representable_pow (by omega) (by omega)

end Integer

/--
The double that a number is beside another double.
-/
def Value.toFloat : Value → Float
  | .int n => Float.ofInt n.toInt
  | .float x => x
  | .bool _ | .str _ => Double.nan

theorem Value.isZero_eq {x : Value} (h : x.isNumeric) : x.isZero = (x.toFloat == 0) := by
  cases x with
  | int n =>
    rw [Bool.eq_iff_iff, toFloat, Double.ofInt_beq_zero_iff, Integer.toInt_eq_zero_iff]
    exact decide_eq_true_iff
  | float x => rfl
  | bool b => cases h
  | str t => cases h

theorem Value.isNumeric_of_isZero {x : Value} (h : x.isZero) : x.isNumeric := by
  cases x with
  | int n => rfl
  | float x => rfl
  | bool b => cases h
  | str t => cases h

namespace Operator

open Integer

variable {op : Operator} {a b : Int64}

/--
Apply an operator to two integers.
-/
def onWords (op : Operator) (a b : Int64) : Except ArithmeticError Value :=
  match op with
  | .add => exactly (fit? (a.toInt + b.toInt))
  | .sub => exactly (fit? (a.toInt - b.toInt))
  | .mul => exactly (fit? (a.toInt * b.toInt))
  | .div =>
    if b = 0 then
      .error .divisionByZero
    else
      .ok (.float (Float.ofInt a.toInt / Float.ofInt b.toInt))
  | .fdiv =>
    if b = 0 then
      .error .divisionByZero
    else
      exactly (floorQuotient? a b)
  | .pow =>
    if b < 0 then
      .ok (.float ((Float.ofInt a.toInt).pow (Float.ofInt b.toInt)))
    else
      exactly (power? a b)

/--
Apply an operator to two doubles.
-/
def onDoubles (op : Operator) (x y : Float) : Except ArithmeticError Value :=
  match op with
  | .add => .ok (.float (x + y))
  | .sub => .ok (.float (x - y))
  | .mul => .ok (.float (x * y))
  | .div => if y == 0 then .error .divisionByZero else .ok (.float (x / y))
  | .fdiv => if y == 0 then .error .divisionByZero else .ok (.float (x / y).floor)
  | .pow => .ok (.float (x.pow y))

/--
Apply an operator to two values. Integers beside a double are converted before any check.
-/
def onValues (op : Operator) (x y : Value) : Except ArithmeticError Value :=
  match x, y with
  | .int a, .int b => op.onWords a b
  | x, y =>
    if x.isNumeric && y.isNumeric then
      op.onDoubles x.toFloat y.toFloat
    else
      .ok (.str (x.display ++ y.display))

theorem onInts_eq_onWords (h : ¬op.DividesByZero (.int a) (.int b)) :
    op.onInts a b = op.onWords a b := by
  cases op with
  | add => rfl
  | sub => rfl
  | mul => rfl
  | div =>
    have hb : b ≠ 0 := fun hb => h ⟨rfl, rfl, decide_eq_true hb⟩
    exact (if_neg hb).symm
  | fdiv =>
    have hb : b ≠ 0 := fun hb => h ⟨rfl, rfl, decide_eq_true hb⟩
    rw [onWords, if_neg hb, floorQuotient?_eq hb]
    rfl
  | pow =>
    unfold onInts onWords
    simp only [Int64.lt_iff_toInt_lt, Int64.toInt_zero]
    split
    next => rfl
    next hb =>
      rw [fitPower?_eq, power?_eq (Int.not_lt.1 hb)]
      rfl

theorem onWords_of_dividesByZero (h : op.DividesByZero (.int a) (.int b)) :
    op.onWords a b = .error .divisionByZero := by
  obtain ⟨hop, -, hb⟩ := h
  have hzero : b = 0 := of_decide_eq_true hb
  cases op with
  | div => exact if_pos hzero
  | fdiv => exact if_pos hzero
  | _ => cases hop

theorem onDoubles_eq (op : Operator) (x y : Float) :
    op.onDoubles x y =
      if op.divides && y == 0 then .error .divisionByZero else .ok (.float (op.onFloats x y)) := by
  cases op <;> rfl

theorem apply_ints (op : Operator) (a b : Int64) :
    op.apply (.int a) (.int b) = op.onWords a b := by
  by_cases h : op.DividesByZero (.int a) (.int b)
  · rw [apply_of_dividesByZero h, onWords_of_dividesByZero h]
  · rw [← onInts_eq_onWords h]
    exact if_neg (by simpa [DividesByZero] using h)

/--
Next to a double, a number is compared with zero after its conversion.
-/
theorem apply_doubles {x y : Value} (hx : x.isNumeric) (hy : y.isNumeric)
    (h : ∀ a b, ¬(x = .int a ∧ y = .int b)) : op.apply x y = op.onDoubles x.toFloat y.toFloat := by
  rw [onDoubles_eq, ← Value.isZero_eq hy]
  unfold apply
  rw [hx, Bool.and_true]
  match x, y with
  | .int a, .int b => exact absurd ⟨rfl, rfl⟩ (h a b)
  | .int _, .float _ | .float _, .int _ | .float _, .float _ => rfl

theorem apply_texts {x y : Value} (h : ¬(x.isNumeric && y.isNumeric)) :
    op.apply x y = .ok (.str (x.display ++ y.display)) := by
  have hzero : ¬(op.divides && x.isNumeric && y.isZero) := by
    simp only [Bool.and_eq_true] at h ⊢
    rintro ⟨⟨-, hx⟩, hy⟩
    exact h ⟨hx, Value.isNumeric_of_isZero hy⟩
  unfold apply
  rw [if_neg hzero]
  match x, y with
  | .bool _, _ | .str _, _ => rfl
  | .int _, .bool _ | .int _, .str _ | .float _, .bool _ | .float _, .str _ => rfl
  | .int _, .int _ | .int _, .float _ | .float _, .int _ | .float _, .float _ => exact absurd rfl h

/--
The arithmetic of the language, branch by branch.
-/
theorem apply_eq_onValues (op : Operator) (x y : Value) : op.apply x y = op.onValues x y := by
  unfold onValues
  split
  next => exact apply_ints op _ _
  next x y hints =>
    split
    next h =>
      rw [Bool.and_eq_true] at h
      exact apply_doubles h.1 h.2 fun a b hab => hints a b hab.1 hab.2
    next h => exact apply_texts h

end Operator
end Stackline
