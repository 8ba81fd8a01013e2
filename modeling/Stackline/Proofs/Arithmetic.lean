import Mathlib
import Stackline.Operator

/-!
When arithmetic succeeds and when it fails. Main statement: an operator that has an exact result on
two integers gives that result if a word holds it and overflows otherwise, and beyond this the only
failure is a division of a number by a zero.
-/

namespace Stackline

namespace Integer

/--
The numbers that words hold.
-/
def Representable (n : Int) : Prop :=
  -2 ^ 63 ≤ n ∧ n < 2 ^ 63

instance (n : Int) : Decidable (Representable n) :=
  inferInstanceAs (Decidable (_ ∧ _))

theorem limit_eq : limit = 2 ^ 63 := by
  decide

theorem representable_toInt (w : Int64) : Representable w.toInt :=
  ⟨le_toInt w, toInt_lt w⟩

theorem exists_toInt_iff {n : Int} : (∃ w : Int64, w.toInt = n) ↔ Representable n := by
  constructor
  · rintro ⟨w, rfl⟩
    exact representable_toInt w
  · intro h
    exact ⟨Int64.ofInt n, Int64.toInt_ofInt_of_le h.1 h.2⟩

theorem fit?_eq_none_iff_not_representable {n : Int} : fit? n = none ↔ ¬Representable n := by
  rw [fit?_eq_none_iff, Representable, limit_eq]
  omega

theorem toInt_eq_zero_iff {w : Int64} : w.toInt = 0 ↔ w = 0 := by
  rw [← Int64.toInt_inj, Int64.toInt_zero]

/-!
Division. The quotient of words is rounded toward zero, and one less than it is the quotient that is
rounded down wherever the two differ.
-/

theorem floor_div (a b : Int) : ⌊(a / b : ℚ)⌋ = a.fdiv b := by
  have hnonneg : ∀ (m : Int) (n : Nat), ⌊(m / (n : Int) : ℚ)⌋ = m.fdiv n := by
    intro m n
    rw [Int.fdiv_eq_ediv_of_nonneg m (Int.natCast_nonneg n), Int.cast_natCast]
    exact Rat.floor_intCast_div_natCast m n
  rcases Int.eq_nat_or_neg b with ⟨n, rfl | rfl⟩
  · exact hnonneg a n
  · have := hnonneg (-a) n
    rw [← neg_neg a, Int.neg_fdiv_neg, ← this]
    push_cast
    rw [neg_div_neg_eq]

/--
A quotient that is rounded toward zero is too large if it leaves a remainder on the other side of
zero than the divisor.
-/
def RoundedUp (remainder divisor : Int) : Prop :=
  remainder ≠ 0 ∧ ¬(remainder < 0 ↔ divisor < 0)

instance (remainder divisor : Int) : Decidable (RoundedUp remainder divisor) :=
  inferInstanceAs (Decidable (_ ∧ _))

theorem fdiv_eq_tdiv_sub {a b : Int} (hb : b ≠ 0) :
    a.fdiv b = a.tdiv b - if RoundedUp (a.tmod b) b then 1 else 0 := by
  -- A remainder has the sign of the dividend.
  have hdvd : b ∣ a ↔ a.tmod b = 0 := Int.dvd_iff_tmod_eq_zero
  have hnonneg : 0 ≤ a → 0 ≤ a.tmod b := Int.tmod_nonneg b
  have hnonpos : a ≤ 0 → a.tmod b ≤ 0 := by
    intro ha
    have := Int.tmod_nonneg b (Int.neg_nonneg.2 ha)
    rw [Int.neg_tmod] at this
    omega
  simp only [Int.fdiv_eq_tdiv, hdvd]
  rcases Int.lt_or_gt_of_ne hb with hneg | hpos
  · rw [Int.sign_eq_neg_one_of_neg hneg]
    unfold RoundedUp
    split_ifs <;> omega
  · rw [Int.sign_eq_one_of_pos hpos]
    unfold RoundedUp
    split_ifs <;> omega

/--
Only divisors beyond one leave a remainder, and those at least halve the dividend.
-/
theorem natAbs_tdiv_le_half {a b : Int} (h : a.tmod b ≠ 0) (hb : b ≠ 0) :
    (a.tdiv b).natAbs ≤ a.natAbs / 2 := by
  have hone : b ≠ 1 := by
    rintro rfl
    exact h (Int.tmod_one a)
  have hnegOne : b ≠ -1 := by
    rintro rfl
    exact h (by rw [Int.tmod_neg, Int.tmod_one])
  rw [Int.natAbs_tdiv]
  exact Nat.div_le_div_left (by omega) (by decide)

theorem toInt_div_of_ne {a b : Int64} (h : ¬(a = Int64.minValue ∧ b = -1)) :
    (a / b).toInt = a.toInt.tdiv b.toInt := by
  by_cases ha : a = Int64.minValue
  · exact Int64.toInt_div_of_ne_right a b fun hb => h ⟨ha, hb⟩
  · exact Int64.toInt_div_of_ne_left a b ha

/--
The step down to the rounded quotient stays within the words.
-/
theorem toInt_div_sub_one {a b : Int64} (hb : b ≠ 0)
    (h : RoundedUp (a % b).toInt b.toInt) : (a / b - 1).toInt = (a / b).toInt - 1 := by
  have hb' : b.toInt ≠ 0 := mt toInt_eq_zero_iff.1 hb
  have hrem : a.toInt.tmod b.toInt ≠ 0 := by
    rw [← Int64.toInt_mod]
    exact h.1
  have hdiv : (a / b).toInt = a.toInt.tdiv b.toInt := by
    apply toInt_div_of_ne
    rintro ⟨rfl, rfl⟩
    exact hrem (by decide)
  have hhalf := natAbs_tdiv_le_half hrem hb'
  have hlo := le_toInt a
  have hhi := toInt_lt a
  rw [← hdiv] at hhalf
  rw [Int64.toInt_sub, Int64.toInt_one]
  unfold limit at hlo hhi
  exact Int.bmod_eq_of_le (by omega) (by omega)

/--
The quotient of two words rounded down, from their quotient rounded toward zero.
-/
def floorQuotient (a b : Int64) : Int64 :=
  if RoundedUp (a % b).toInt b.toInt then a / b - 1 else a / b

theorem toInt_floorQuotient {a b : Int64} (hb : b ≠ 0) (h : ¬(a = Int64.minValue ∧ b = -1)) :
    (floorQuotient a b).toInt = a.toInt.fdiv b.toInt := by
  have hb' : b.toInt ≠ 0 := mt toInt_eq_zero_iff.1 hb
  rw [fdiv_eq_tdiv_sub hb', ← toInt_div_of_ne h, ← Int64.toInt_mod]
  unfold floorQuotient
  split
  next hup => exact toInt_div_sub_one hb hup
  next => rw [Int.sub_zero]

/-!
Powers. Beyond an exponent of 63 only bases of magnitude at most one have powers in range.
-/

theorem natAbs_toInt_le_one_iff {w : Int64} :
    w.toInt.natAbs ≤ 1 ↔ w = 0 ∨ w = 1 ∨ w = -1 := by
  have hnegOne : (-1 : Int64).toInt = -1 := rfl
  rw [← Int64.toInt_inj, ← Int64.toInt_inj, ← Int64.toInt_inj, Int64.toInt_zero, Int64.toInt_one,
    hnegOne]
  omega

theorem representable_pow_of_natAbs_le_one {a : Int} (h : a.natAbs ≤ 1) (n : Nat) :
    Representable (a ^ n) := by
  have hpow : (a ^ n).natAbs ≤ 1 := by
    rw [Int.natAbs_pow]
    exact pow_le_one₀ (Nat.zero_le _) h
  unfold Representable
  omega

theorem not_representable_pow {a : Int} (h : 1 < a.natAbs) {n : Nat} (hn : 64 ≤ n) :
    ¬Representable (a ^ n) := by
  have hpow : 2 * limit ≤ (a ^ n).natAbs := limit_le_natAbs_pow h hn
  unfold Representable
  unfold limit at hpow
  omega

end Integer

theorem Value.isZero_iff {x : Value} :
    x.isZero ↔ x = .int 0 ∨ x = .float 0.0 ∨ x = .float (-0.0) := by
  cases x with
  | int n => simp [Value.isZero]
  | float x =>
    simp only [Value.isZero, reduceCtorEq, Value.float.injEq, false_or]
    constructor
    · intro h
      -- Equal doubles are identical or the two zeros, and the second operand is a zero anyway.
      obtain ⟨-, -, h | ⟨h, -⟩ | ⟨h, -⟩⟩ := Float.beq_iff_ne_nan_and_eq.1 h
      · exact .inl (h.trans (by decide))
      · exact .inl (h.trans (by decide))
      · exact .inr (h.trans (by decide))
    · rintro (rfl | rfl) <;> decide
  | bool b => simp [Value.isZero]
  | str t => simp [Value.isZero]

namespace Operator

open Integer

variable {op : Operator} {a b : Int64} {r : Int}

/--
The exact result of an operator on two whole numbers. `div` has none, `fdiv` has none for a divisor
of zero and `pow` has none for a negative exponent.
-/
inductive Exact : Operator → Int → Int → Int → Prop where
  | add {a b : Int} : Exact .add a b (a + b)
  | sub {a b : Int} : Exact .sub a b (a - b)
  | mul {a b : Int} : Exact .mul a b (a * b)
  | fdiv {a b : Int} (h : b ≠ 0) : Exact .fdiv a b ⌊(a / b : ℚ)⌋
  | pow {a b : Int} (h : 0 ≤ b) : Exact .pow a b (a ^ b.toNat)

/--
Whether an operator is asked to divide a number by a zero.
-/
def DividesByZero (op : Operator) (x y : Value) : Prop :=
  op.divides ∧ x.isNumeric ∧ y.isZero

theorem apply_of_dividesByZero {x y : Value} (h : op.DividesByZero x y) :
    op.apply x y = .error .divisionByZero := by
  obtain ⟨hop, hx, hy⟩ := h
  unfold apply
  rw [hop, hx, hy]
  rfl

theorem Exact.not_dividesByZero (h : op.Exact a.toInt b.toInt r) :
    ¬op.DividesByZero (.int a) (.int b) := by
  rintro ⟨hop, -, hb⟩
  cases h with
  | add => cases hop
  | sub => cases hop
  | mul => cases hop
  | fdiv h => exact h (toInt_eq_zero_iff.2 (of_decide_eq_true hb))
  | pow h => cases hop

theorem Exact.onInts_eq (h : op.Exact a.toInt b.toInt r) : op.onInts a b = exactly (fit? r) := by
  cases h with
  | add => rfl
  | sub => rfl
  | mul => rfl
  | fdiv h =>
    rw [floor_div]
    rfl
  | pow h =>
    rw [onInts, if_neg (Int.not_lt.2 h), fitPower?_eq]
    rfl

theorem Exact.apply_eq (h : op.Exact a.toInt b.toInt r) :
    op.apply (.int a) (.int b) = exactly (fit? r) := by
  rw [← h.onInts_eq, apply, if_neg]
  simpa [DividesByZero] using h.not_dividesByZero

/--
Apart from divisions by zero, an operator has an exact result on two integers or succeeds.
-/
theorem exact_or_ok (op : Operator) (x y : Value) (h : ¬op.DividesByZero x y) :
    (∃ a b r, x = .int a ∧ y = .int b ∧ op.Exact a.toInt b.toInt r) ∨
      ∃ v, op.apply x y = .ok v := by
  have happly : op.apply x y = _ := if_neg (by simpa [DividesByZero] using h)
  match x, y with
  | .int a, .int b =>
    cases op with
    | add => exact .inl ⟨a, b, _, rfl, rfl, .add⟩
    | sub => exact .inl ⟨a, b, _, rfl, rfl, .sub⟩
    | mul => exact .inl ⟨a, b, _, rfl, rfl, .mul⟩
    | div => exact .inr ⟨_, happly⟩
    | fdiv =>
      have hb : b.toInt ≠ 0 := fun hb =>
        h ⟨rfl, rfl, decide_eq_true (toInt_eq_zero_iff.1 hb)⟩
      exact .inl ⟨a, b, _, rfl, rfl, .fdiv hb⟩
    | pow =>
      by_cases hb : b.toInt < 0
      · exact .inr ⟨_, happly.trans (if_pos hb)⟩
      · exact .inl ⟨a, b, _, rfl, rfl, .pow (Int.not_lt.1 hb)⟩
  | .int _, .float _ | .float _, .int _ | .float _, .float _ => exact .inr ⟨_, happly⟩
  | .bool _, _ | .str _, _ => exact .inr ⟨_, happly⟩
  | .int _, .bool _ | .int _, .str _ => exact .inr ⟨_, happly⟩
  | .float _, .bool _ | .float _, .str _ => exact .inr ⟨_, happly⟩

theorem exactly_fit?_eq_ok_iff {n : Int64} : exactly (fit? r) = .ok (.int n) ↔ n.toInt = r := by
  rw [← fit?_eq_some_iff]
  cases fit? r <;> simp [exactly]

theorem exactly_fit?_eq_overflow_iff : exactly (fit? r) = .error .overflow ↔ ¬Representable r := by
  rw [← fit?_eq_none_iff_not_representable]
  cases fit? r <;> simp [exactly]

theorem dividesByZero_iff {x y : Value} :
    op.DividesByZero x y ↔ (op = .div ∨ op = .fdiv) ∧ x.isNumeric ∧ y.isNumeric ∧
      (y = .int 0 ∨ y = .float 0.0 ∨ y = .float (-0.0)) := by
  have hop : op.divides ↔ op = .div ∨ op = .fdiv := by
    cases op <;> decide
  have hy : y.isZero ↔ y.isNumeric ∧ y.isZero := by
    cases y <;> simp [Value.isZero, Value.isNumeric]
  rw [DividesByZero, hop, hy, Value.isZero_iff]

theorem apply_eq_divisionByZero_iff {x y : Value} :
    op.apply x y = .error .divisionByZero ↔ op.DividesByZero x y := by
  constructor
  · intro h
    by_contra hzero
    rcases exact_or_ok op x y hzero with ⟨a, b, r, rfl, rfl, hr⟩ | ⟨v, hv⟩
    · rw [hr.apply_eq] at h
      cases hfit : fit? r <;> simp [hfit, exactly] at h
    · simp [hv] at h
  · exact apply_of_dividesByZero

theorem Exact.exists_ok_iff (h : op.Exact a.toInt b.toInt r) :
    (∃ n : Int64, n.toInt = r ∧ op.apply (.int a) (.int b) = .ok (.int n)) ↔ Representable r := by
  simp only [h.apply_eq, exactly_fit?_eq_ok_iff, and_self, exists_toInt_iff]

theorem Exact.overflow_iff (h : op.Exact a.toInt b.toInt r) :
    op.apply (.int a) (.int b) = .error .overflow ↔ ¬Representable r := by
  rw [h.apply_eq, exactly_fit?_eq_overflow_iff]

theorem apply_eq_overflow_iff {x y : Value} :
    op.apply x y = .error .overflow ↔
      ∃ a b r, x = .int a ∧ y = .int b ∧ op.Exact a.toInt b.toInt r ∧ ¬Representable r := by
  constructor
  · intro h
    have hzero : ¬op.DividesByZero x y := by
      intro hzero
      simp [apply_of_dividesByZero hzero] at h
    rcases exact_or_ok op x y hzero with ⟨a, b, r, rfl, rfl, hr⟩ | ⟨v, hv⟩
    · exact ⟨a, b, r, rfl, rfl, hr, hr.overflow_iff.1 h⟩
    · simp [hv] at h
  · rintro ⟨a, b, r, rfl, rfl, hr, h⟩
    exact hr.overflow_iff.2 h

theorem apply_fdiv (hb : b ≠ 0) (h : ¬(a = Int64.minValue ∧ b = -1)) :
    Operator.fdiv.apply (.int a) (.int b) = .ok (.int (floorQuotient a b)) := by
  rw [(Exact.fdiv (mt toInt_eq_zero_iff.1 hb)).apply_eq, exactly_fit?_eq_ok_iff, floor_div]
  exact toInt_floorQuotient hb h

end Operator

open Integer in
/--
Integers are computed exactly or overflow, the correction of a truncated quotient never wraps,
exponents of more than 32 bits fit the bases 0, 1 and -1 only, and there are no failures but these
overflows and the divisions by a zero.
-/
theorem arithmetic_exact_or_fails :
    (∀ (op : Operator) (a b : Int64) (r : Int), op.Exact a.toInt b.toInt r →
      ((∃ n : Int64, n.toInt = r ∧ op.apply (.int a) (.int b) = .ok (.int n)) ↔ Representable r) ∧
      (op.apply (.int a) (.int b) = .error .overflow ↔ ¬Representable r)) ∧
    (∀ a b : Int64, b ≠ 0 →
      (RoundedUp (a % b).toInt b.toInt → (a / b - 1).toInt = (a / b).toInt - 1) ∧
      (¬(a = Int64.minValue ∧ b = -1) →
        Operator.fdiv.apply (.int a) (.int b) = .ok (.int (floorQuotient a b)))) ∧
    (∀ a b : Int64, 2 ^ 32 ≤ b.toInt →
      (a = 0 ∨ a = 1 ∨ a = -1 →
        ∃ n : Int64, n.toInt = a.toInt ^ b.toInt.toNat ∧
          Operator.pow.apply (.int a) (.int b) = .ok (.int n)) ∧
      (¬(a = 0 ∨ a = 1 ∨ a = -1) →
        Operator.pow.apply (.int a) (.int b) = .error .overflow)) ∧
    (∀ (op : Operator) (x y : Value),
      (op.apply x y = .error .divisionByZero ↔
        (op = .div ∨ op = .fdiv) ∧ x.isNumeric ∧ y.isNumeric ∧
          (y = .int 0 ∨ y = .float 0.0 ∨ y = .float (-0.0))) ∧
      (op.apply x y = .error .overflow ↔
        ∃ a b r, x = .int a ∧ y = .int b ∧ op.Exact a.toInt b.toInt r ∧ ¬Representable r)) ∧
    ArithmeticError.overflow.message = "integer overflow" ∧
    ArithmeticError.divisionByZero.message = "division by zero" := by
  refine ⟨fun op a b r h => ⟨h.exists_ok_iff, h.overflow_iff⟩, ?_, ?_, ?_, rfl, rfl⟩
  · intro a b hb
    exact ⟨toInt_div_sub_one hb, Operator.apply_fdiv hb⟩
  · intro a b hb
    have hpow : Operator.pow.Exact a.toInt b.toInt _ := .pow (by omega)
    rw [← natAbs_toInt_le_one_iff]
    constructor
    · intro h
      exact hpow.exists_ok_iff.2 (representable_pow_of_natAbs_le_one h _)
    · intro h
      exact hpow.overflow_iff.2 (not_representable_pow (by omega) (by omega))
  · intro op x y
    rw [Operator.apply_eq_divisionByZero_iff, Operator.dividesByZero_iff]
    exact ⟨Iff.rfl, Operator.apply_eq_overflow_iff⟩

theorem arithmetic_exact_or_fails_at_limits :
    Operator.fdiv.apply (.int Int64.minValue) (.int (-1)) = .error .overflow ∧
    Operator.pow.apply (.int 0) (.int 0) = .ok (.int 1) ∧
    Operator.fdiv.apply (.int (-7)) (.int 2) = .ok (.int (-4)) ∧
    ((-7) / 2 - 1 : Int64).toInt = ((-7) / 2 : Int64).toInt - 1 ∧
    (∃ n : Int64, n.toInt = (-1 : Int64).toInt ^ (5000000001 : Int64).toInt.toNat ∧
      Operator.pow.apply (.int (-1)) (.int 5000000001) = .ok (.int n)) ∧
    Operator.pow.apply (.int 2) (.int 5000000000) = .error .overflow ∧
    Operator.div.apply (.float 1.0) (.float (-0.0)) = .error .divisionByZero := by
  obtain ⟨hexact, hfdiv, hpow, hfails, -⟩ := arithmetic_exact_or_fails
  refine ⟨?_, ?_, ?_, ?_, ?_, ?_, ?_⟩
  · apply (hexact .fdiv Int64.minValue (-1) _ (.fdiv (by decide))).2.2
    rw [Integer.floor_div]
    decide
  · obtain ⟨n, hn, happly⟩ := (hexact .pow 0 0 _ (.pow (by decide))).1.2 (by decide)
    rw [happly, Int64.toInt_inj.1 (hn.trans Int64.toInt_one.symm)]
  · exact (hfdiv (-7) 2 (by decide)).2 (by decide)
  · exact (hfdiv (-7) 2 (by decide)).1 (by decide)
  · exact (hpow (-1) 5000000001 (by decide)).1 (by decide)
  · exact (hpow 2 5000000000 (by decide)).2 (by decide)
  · exact (hfails .div (.float 1.0) (.float (-0.0))).1.2 ⟨.inl rfl, rfl, rfl, .inr (.inr rfl)⟩

end Stackline
