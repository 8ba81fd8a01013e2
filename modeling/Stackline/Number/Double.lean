import Stackline.Number.Shortest

/-!
The text of doubles, in the form in which programs print and read them.
-/

namespace Stackline
namespace Double

def infinity : Float :=
  Float.ofBits 0x7ff0000000000000

def nan : Float :=
  Float.ofBits 0x7ff8000000000000

/--
Whether the sign bit is set, which negative zero shares with the negative numbers.
-/
def isNegative (x : Float) : Bool :=
  0x8000000000000000 ≤ x.toBits.toNat

/--
Whether a finite number is written with an exponent.
-/
def isExtreme (x : Float) : Bool :=
  1e16 ≤ x.abs || (x.abs != 0 && x.abs < 1e-4)

/--
The text of a finite magnitude.
-/
def magnitude (x : Float) : Text :=
  let d := (Binary.ofFloat x).shortest
  if isExtreme x then d.scientific else d.positional

/--
The text of a double: the fewest digits that read back, with an exponent for very large and very
small magnitudes and with a point otherwise. A NaN has no sign, all else keeps it.
-/
def text (x : Float) : Text :=
  if x.isNaN then
    "NaN".toList
  else
    (if isNegative x then ['-'] else []) ++ if x.abs == infinity then "inf".toList else magnitude x

/--
Read a double: an optional sign before a decimal, or before one of three words in any case.
-/
def read? (t : Text) : Option Float :=
  match Integer.splitSign t with
  | (negative, body) => (unsigned? body).map fun x => if negative then -x else x
where
  unsigned? (body : Text) : Option Float :=
    if Text.eqFold body "inf".toList || Text.eqFold body "infinity".toList then
      some infinity
    else if Text.eqFold body "nan".toList then
      some nan
    else
      (Decimal.read? body).map Decimal.toFloat

end Double
end Stackline
