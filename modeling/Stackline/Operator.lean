import Stackline.Value

/-!
The arithmetic of the language. Integers are exact or overflow, doubles follow IEEE 754, and where
an operand is no number the operands are joined as text, whatever the operator.
-/

namespace Stackline

inductive Operator where
  | add
  | sub
  | mul
  | div
  | fdiv
  | pow
  deriving Repr, DecidableEq

inductive ArithmeticError where
  | overflow
  | divisionByZero
  deriving Repr, DecidableEq

def ArithmeticError.message : ArithmeticError → String
  | .overflow => "integer overflow"
  | .divisionByZero => "division by zero"

/--
The word that holds a power. Only the bases of magnitude at most one have powers beyond the
sixty-fourth that fit, and those depend on the parity of a positive exponent alone.
-/
def Integer.fitPower? (base : Int) (exponent : Nat) : Option Int64 :=
  if base.natAbs ≤ 1 then
    fit? (base.pow (min exponent (2 + exponent % 2)))
  else if exponent < 64 then
    fit? (base.pow exponent)
  else
    none

theorem Integer.pow_add (base : Int) (m n : Nat) : base.pow (m + n) = base.pow m * base.pow n :=
  Int.pow_add base m n

theorem Integer.natAbs_pow (base : Int) (n : Nat) : (base.pow n).natAbs = base.natAbs.pow n :=
  Int.natAbs_pow base n

/--
A further even number of factors of magnitude at most one does not change a square.
-/
theorem Integer.pow_eq_of_natAbs_le_one {base : Int} (h : base.natAbs ≤ 1) (k r : Nat) :
    base.pow (2 + 2 * k + r) = base.pow (2 + r) := by
  have hsq : base.pow 2 * base.pow 2 = base.pow 2 := by
    have : base = 0 ∨ base = 1 ∨ base = -1 := by omega
    rcases this with rfl | rfl | rfl <;> decide
  have heven : base.pow (2 + 2 * k) = base.pow 2 := by
    induction k with
    | zero => rfl
    | succ k ih => rw [Nat.mul_succ, ← Nat.add_assoc, pow_add, ih, hsq]
  rw [pow_add, heven, pow_add]

theorem Integer.limit_le_natAbs_pow {base : Int} {exponent : Nat} (h : 1 < base.natAbs)
    (hexp : 64 ≤ exponent) : 2 * limit ≤ (base.pow exponent).natAbs := by
  have hpow : Nat.pow 2 64 ≤ Nat.pow base.natAbs exponent :=
    Nat.le_trans (Nat.pow_le_pow_right (by decide) hexp) (Nat.pow_le_pow_left h exponent)
  rw [natAbs_pow]
  exact Int.ofNat_le.2 hpow

theorem Integer.fitPower?_eq (base : Int) (exponent : Nat) :
    fitPower? base exponent = fit? (base.pow exponent) := by
  unfold fitPower?
  split
  next h =>
    rcases Nat.lt_or_ge exponent 2 with hlt | hge
    · rw [Nat.min_eq_left (by omega)]
    · rw [Nat.min_eq_right (by omega), ← pow_eq_of_natAbs_le_one h ((exponent - 2) / 2)]
      congr 2
      omega
  next h =>
    split
    next => rfl
    next hexp =>
      have := limit_le_natAbs_pow (Nat.lt_of_not_le h) (Nat.le_of_not_lt hexp)
      symm
      rw [fit?_eq_none_iff]
      unfold limit at this ⊢
      omega

namespace Operator

def all : List Operator :=
  [.add, .sub, .mul, .div, .fdiv, .pow]

def word : Operator → String
  | .add => "add"
  | .sub => "sub"
  | .mul => "mul"
  | .div => "div"
  | .fdiv => "fdiv"
  | .pow => "pow"

def divides : Operator → Bool
  | .div | .fdiv => true
  | _ => false

/--
An exact result as a value, if a word holds it.
-/
def exactly : Option Int64 → Except ArithmeticError Value
  | some n => .ok (.int n)
  | none => .error .overflow

/--
Apply an operator to two doubles.
-/
def onFloats (op : Operator) (a b : Float) : Float :=
  match op with
  | .add => a + b
  | .sub => a - b
  | .mul => a * b
  | .div => a / b
  | .fdiv => (a / b).floor
  | .pow => a.pow b

/--
Apply an operator to two integers. The quotient of `div` and powers with a negative exponent are
doubles, and the quotient of `fdiv` is rounded toward negative infinity.
-/
def onInts (op : Operator) (a b : Int64) : Except ArithmeticError Value :=
  match op with
  | .add => exactly (Integer.fit? (a.toInt + b.toInt))
  | .sub => exactly (Integer.fit? (a.toInt - b.toInt))
  | .mul => exactly (Integer.fit? (a.toInt * b.toInt))
  | .fdiv => exactly (Integer.fit? (a.toInt.fdiv b.toInt))
  | .div => .ok (.float (op.onFloats (Float.ofInt a.toInt) (Float.ofInt b.toInt)))
  | .pow =>
    if b.toInt < 0 then
      .ok (.float (op.onFloats (Float.ofInt a.toInt) (Float.ofInt b.toInt)))
    else
      exactly (Integer.fitPower? a.toInt b.toInt.toNat)

/--
Compute `a op b`. Booleans are treated as text here.
-/
def apply (op : Operator) (a b : Value) : Except ArithmeticError Value :=
  if op.divides && a.isNumeric && b.isZero then
    .error .divisionByZero
  else
    match a, b with
    | .int a, .int b => op.onInts a b
    | .int a, .float b => .ok (.float (op.onFloats (Float.ofInt a.toInt) b))
    | .float a, .int b => .ok (.float (op.onFloats a (Float.ofInt b.toInt)))
    | .float a, .float b => .ok (.float (op.onFloats a b))
    | a, b => .ok (.str (a.display ++ b.display))

end Operator
end Stackline
