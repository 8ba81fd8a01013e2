import Stackline.Number.Integer

/-!
Numbers in decimal form: the two layouts in which they are written, the grammar in which they are
read, and the double nearest to one.
-/

namespace Stackline

/--
The number `significand * 10 ^ exponent`.
-/
structure Decimal where
  significand : Nat
  exponent : Int
  deriving Repr, DecidableEq

namespace Decimal

def digits (d : Decimal) : Text :=
  Nat.toDigits 10 d.significand

/--
The positional layout. It always has a point with a digit on either side.
-/
def positional (d : Decimal) : Text :=
  if 0 ≤ d.exponent then
    d.digits ++ List.replicate d.exponent.toNat '0' ++ ['.', '0']
  else
    let places := d.exponent.natAbs
    let padded := List.leftpad (places + 1) '0' d.digits
    padded.take (padded.length - places) ++ '.' :: padded.drop (padded.length - places)

/--
The layout with an exponent: one digit before the point, no point if there is no further digit, and
a signed exponent of at least two digits.
-/
def scientific (d : Decimal) : Text :=
  mantissa d.digits ++ 'e' :: signed (d.exponent + d.digits.length - 1)
where
  mantissa : Text → Text
    | lead :: next :: rest => lead :: '.' :: next :: rest
    | digits => digits
  signed (e : Int) : Text :=
    (if e < 0 then '-' else '+') :: List.leftpad 2 '0' (Nat.toDigits 10 e.natAbs)

/--
Read digits with an optional point among or around them and an optional exponent behind them.
-/
def read? (t : Text) : Option Decimal :=
  match Text.cut? (fun c => c = 'e' || c = 'E') t with
  | some (body, power) => do unscaled? body (← Integer.read? power)
  | none => unscaled? t 0
where
  unscaled? (body : Text) (power : Int) : Option Decimal :=
    let (whole, fraction) := (Text.cut? (· = '.') body).getD (body, [])
    if Integer.isNumeral (whole ++ fraction) then
      some ⟨Integer.ofNumeral (whole ++ fraction), power - fraction.length⟩
    else
      none

/--
The double nearest to a number, which is infinite above the largest doubles and zero below the
smallest. Exponents far outside the range of doubles are cut off before any power of ten is made.
-/
def toFloat (d : Decimal) : Float :=
  let exponent := min 400 (max d.exponent (-400 - d.significand.log2))
  Float.ofScientific d.significand (exponent < 0) exponent.natAbs

end Decimal
end Stackline
