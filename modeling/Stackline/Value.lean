import Stackline.Number.Double
import Stackline.Ty

/-!
The values that programs compute with, and the text in which they print them.
-/

namespace Stackline

inductive Value where
  | int (n : Int64)
  | float (x : Float)
  | bool (b : Bool)
  | str (t : Text)
  deriving Repr, DecidableEq

namespace Value

/--
The type of a value. Unsigned types belong to variables and literals only.
-/
def ty : Value → Ty
  | .int _ => .int
  | .float _ => .float
  | .bool _ => .bool
  | .str _ => .string

/--
The text that prints a value and that stands for it inside a string.
-/
def display : Value → Text
  | .int n => Integer.text n.toInt
  | .float x => Double.text x
  | .bool true => "True".toList
  | .bool false => "False".toList
  | .str t => t

def isNumeric : Value → Bool
  | .int _ | .float _ => true
  | .bool _ | .str _ => false

def isBool : Value → Bool
  | .bool _ => true
  | _ => false

/--
Whether a value is a numeric zero; the zeros of both signs are.
-/
def isZero : Value → Bool
  | .int n => n = 0
  | .float x => x == 0
  | .bool _ | .str _ => false

end Value
end Stackline
