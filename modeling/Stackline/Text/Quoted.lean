import Stackline.Text.Basic
import Stackline.Text.Hidden

/-!
The quoted form in which messages show a name or a literal.
-/

namespace Stackline
namespace Text

/--
The form of one character inside quotes. An apostrophe stands as it is; a hidden character without
a short form is written by its code point in lower-case hexadecimal digits.
-/
def escape (c : Char) : Text :=
  match c with
  | '\x00' => ['\\', '0']
  | '\t' => ['\\', 't']
  | '\n' => ['\\', 'n']
  | '\r' => ['\\', 'r']
  | '"' => ['\\', '"']
  | '\\' => ['\\', '\\']
  | c => if isHidden c then ['\\', 'u', '{'] ++ Nat.toDigits 16 c.toNat ++ ['}'] else [c]

/--
A text between quotes, with the characters that could not be told apart inside them escaped.
-/
def quoted (t : Text) : Text :=
  '"' :: t.flatMap escape ++ ['"']

end Text
end Stackline
