import Stackline.Number.Decimal

/-!
The shortest decimal that reads back as a given double. A double stands for an interval of reals,
those that round to it; the decimal grids are walked from coarse to fine until one of them has a
point in that interval next to the double.
-/

namespace Stackline

/--
The magnitude `significand * 2 ^ exponent` of a finite double.
-/
structure Binary where
  significand : Nat
  exponent : Int
  /-- The next smaller double is half as far away as the next larger one. -/
  narrowBelow : Bool
  deriving Repr, DecidableEq

namespace Binary

/--
Take apart the bits of a finite double.
-/
def ofFloat (x : Float) : Binary :=
  let unit := Nat.pow 2 52
  let fraction := x.toBits.toNat % unit
  let biased := x.toBits.toNat / unit % 2048
  if biased = 0 then
    ⟨fraction, -1074, false⟩
  else
    ⟨unit + fraction, biased - 1075, fraction = 0 && 1 < biased⟩

/--
A point of the grid of multiples of `10 ^ exponent` that rounds to `b`, one of the two next to `b`.
Of two such points the nearer is taken, and the upper one if `b` is halfway between them.

All comparisons are made between multiples of a quarter of the last bit of `b` and multiples of
`10 ^ exponent`, after both are brought to whole numbers by the factors `bit` and `step`.
-/
def onGrid? (b : Binary) (exponent : Int) : Option Decimal :=
  let bit := Nat.pow 2 (b.exponent - 2).toNat * Nat.pow 10 (-exponent).toNat
  let step := Nat.pow 10 exponent.toNat * Nat.pow 2 (2 - b.exponent).toNat
  let value := 4 * b.significand * bit
  let low := (4 * b.significand - if b.narrowBelow then 1 else 2) * bit
  let high := (4 * b.significand + 2) * bit
  let closed := b.significand % 2 = 0
  let below := value / step
  let lowerHit := low < below * step || (closed && low = below * step)
  let upperHit := (below + 1) * step < high || (closed && (below + 1) * step = high)
  let upperNearer := (2 * below + 1) * step ≤ 2 * value
  if upperHit && (!lowerHit || upperNearer) then
    some ⟨below + 1, exponent⟩
  else if lowerHit then
    some ⟨below, exponent⟩
  else
    none

/--
The number itself in decimal form.
-/
def toDecimal (b : Binary) : Decimal :=
  if 0 ≤ b.exponent then
    ⟨b.significand * Nat.pow 2 b.exponent.toNat, 0⟩
  else
    ⟨b.significand * Nat.pow 5 b.exponent.natAbs, b.exponent⟩

/--
The decimal with the fewest digits that rounds to `b`. The walk starts on a grid coarser than `b`:
`301 / 1000` is just below the decimal logarithm of two, and the summand makes up for what is
rounded off. Seventeen digits always suffice, so a grid with a hit is found.
-/
def shortest (b : Binary) : Decimal :=
  if b.significand = 0 then
    ⟨0, 0⟩
  else
    let start := (b.significand.log2 + b.exponent) * 301 / 1000 + 2
    let grids := (List.range 24).map fun (finer : Nat) => start - finer
    (grids.findSome? b.onGrid?).getD b.toDecimal

end Binary
end Stackline
