import Stackline.Number.Double
import Stackline.Text.Alphanumeric
import Stackline.Text.Blank

/-!
The values that a log directive may ask of a field: numbers and regular expressions. Only their
form matters, since no value is ever compared with them.

Expressions work on the characters of Unicode, but without the tables for its classes and for its
case, so whatever needs one of these is refused until the flag `u` is turned off. Then only what
stays within ASCII is accepted. A directive has no closing brace, no comma and no equals sign
within a value, so the forms that need one are never complete.
-/

namespace Stackline
namespace Pattern

/--
The flags on which the form of an expression depends.
-/
structure Flags where
  unicode : Bool
  ignoreCase : Bool
  /-- Blanks and comments do not count. -/
  verbose : Bool
  deriving Repr, DecidableEq

namespace Flags

def initial : Flags :=
  ⟨true, false, false⟩

/--
Whether characters and classes of characters can be written.
-/
def allowsCharacters (flags : Flags) : Bool :=
  !(flags.unicode && flags.ignoreCase)

/--
Turn a flag on or off, if it matters.
-/
def set (flags : Flags) (on : Bool) : Char → Flags
  | 'u' => { flags with unicode := on }
  | 'i' => { flags with ignoreCase := on }
  | 'x' => { flags with verbose := on }
  | _ => flags

/--
Change flags as a text says, in which those behind a minus are turned off. There is at most one
minus, which is not the last, and no flag comes twice.
-/
def change? (flags : Flags) (t : Text) : Option Flags :=
  if t.all (· ∈ "imsURux-".toList) && t.Nodup && t.getLast? ≠ some '-' then
    let on := t.takeWhile (· ≠ '-')
    let off := t.dropWhile (· ≠ '-')
    some (off.foldl (·.set false ·) (on.foldl (·.set true ·) flags))
  else
    none

end Flags

/--
What a backslash makes of the characters behind it.
-/
inductive Escape where
  | literal (c : Char)
  /-- A character by its code point. -/
  | code (c : Char)
  /-- Digits, blanks or word characters, or all but those. -/
  | charClass (negated : Bool)
  /-- The beginning or the end of the text. -/
  | edge
  /-- The beginning or the end of a word. -/
  | boundary
  deriving Repr, DecidableEq

namespace Escape

def hexDigit? (c : Char) : Option Nat :=
  let digits := "0123456789abcdef".toList
  if c.toLower ∈ digits then some (digits.idxOf c.toLower) else none

/--
Read a code point of a number of hexadecimal digits.
-/
def code? (count : Nat) (t : Text) : Option (Escape × Text) := do
  guard (count ≤ t.length)
  let digits ← (t.take count).mapM hexDigit?
  let n := digits.foldl (fun n digit => 16 * n + digit) 0
  guard n.isValidChar
  return (.code (Char.ofNat n), t.drop count)

def read? : Text → Option (Escape × Text)
  | [] => none
  | c :: t =>
    match c with
    | 'x' => code? 2 t
    | 'u' => code? 4 t
    | 'U' => code? 8 t
    | 'd' | 's' | 'w' => some (.charClass false, t)
    | 'D' | 'S' | 'W' => some (.charClass true, t)
    | 'A' | 'z' => some (.edge, t)
    | 'b' | 'B' | '<' | '>' => some (.boundary, t)
    | 'a' | 'f' | 'n' | 'r' | 't' | 'v' => some (.literal c, t)
    | _ => if c.toNat < 0x80 && !c.isAlphanum then some (.literal c, t) else none

/--
Whether an escape can be used under some flags.
-/
def fits (flags : Flags) : Escape → Bool
  | .literal _ => flags.allowsCharacters
  | .code c => flags.allowsCharacters && (flags.unicode || c.toNat < 0x80)
  | .charClass negated => !flags.unicode && !negated
  | .edge => true
  | .boundary => !flags.unicode

end Escape

/--
Leave out blanks and comments, if they do not count.
-/
def skip (flags : Flags) (t : Text) : Text :=
  if flags.verbose then go t.length t else t
where
  go : Nat → Text → Text
    | 0, t => t
    | fuel + 1, t =>
      match Text.trimStart t with
      | '#' :: t => go fuel (t.dropWhile (· ≠ '\n'))
      | t => t

/--
Read one member of a class: a character, or a class that can not begin or end a range.
-/
def member? (flags : Flags) : Text → Option (Option Char × Text)
  | [] => none
  | '\\' :: t => do
    let (escape, t) ← Escape.read? t
    guard (escape.fits flags)
    match escape with
    | .literal c | .code c => return (some c, t)
    | .charClass _ => return (none, t)
    | .edge | .boundary => none
  | c :: t => if flags.unicode || c.toNat < 0x80 then some (some c, t) else none

/--
Read members from a text, either one alone or the two ends of a range.
-/
def range? (flags : Flags) (t : Text) : Option Text := do
  let (first, t) ← member? flags t
  match skip flags t with
  | '-' :: rest =>
    match skip flags rest with
    | ']' :: _ | '-' :: _ => return '-' :: rest
    | rest =>
      let (last, rest) ← member? flags rest
      guard ((← first) ≤ (← last))
      return rest
  | t => return t

/--
Read on behind the bracket that opens a class. Minus signs and a closing bracket at the beginning
are members of the class.
-/
def openClass? (flags : Flags) (t : Text) : Option Text := do
  guard flags.allowsCharacters
  let t ← match skip flags t with
    | '^' :: t => if flags.unicode then some (skip flags t) else none
    | t => some t
  match t with
  | ']' :: t => return t
  | t => return t.dropWhile (· = '-')

/--
Read on inside a class and a number of classes around it, up to the end of the outermost.
-/
def class? (flags : Flags) : (fuel outer : Nat) → Text → Option Text
  | 0, _, _ => none
  | fuel + 1, outer, t =>
    match skip flags t with
    | '[' :: t => do class? flags fuel (outer + 1) (← openClass? flags t)
    | ']' :: t => if outer = 0 then some t else class? flags fuel (outer - 1) t
    | '&' :: '&' :: t | '-' :: '-' :: t | '~' :: '~' :: t => class? flags fuel outer t
    | t => do class? flags fuel outer (← range? flags t)

/--
The state of reading an expression.
-/
structure Progress where
  flags : Flags
  /-- The flags outside the groups that are open, the innermost first. -/
  outside : List Flags
  /-- The names of groups so far. -/
  names : List Text
  /-- There is something that can be repeated. -/
  repeatable : Bool
  deriving Repr, DecidableEq

/--
Whether a text can name a group.
-/
def isGroupName : Text → Bool
  | [] => false
  | c :: t =>
    (c = '_' || (Text.isAlphanumeric c && !c.isDigit)) &&
      t.all fun c => Text.isAlphanumeric c || c ∈ ['_', '.', '[', ']']

/--
Begin a group under some flags.
-/
def Progress.enter (p : Progress) (flags : Flags) : Progress :=
  { p with flags, outside := p.flags :: p.outside, repeatable := false }

/--
Read on behind the parenthesis that opens a group or changes the flags of the one around it.
-/
def Progress.group? (p : Progress) (t : Text) : Option (Progress × Text) :=
  match skip p.flags t with
  | '?' :: 'P' :: '<' :: t | '?' :: '<' :: t => do
    let (name, t) ← Text.cut? (· = '>') t
    guard (isGroupName name && p.names.all (· ≠ name))
    return ({ p.enter p.flags with names := name :: p.names }, t)
  | '?' :: t => do
    let text := t.takeWhile (· ∉ [':', ')'])
    let flags ← p.flags.change? text
    match t.drop text.length with
    | ':' :: t => return (p.enter flags, t)
    | ')' :: t => if text.isEmpty then none else return ({ p with flags, repeatable := false }, t)
    | _ => none
  | t => some (p.enter p.flags, t)

/--
Read one element of an expression.
-/
def Progress.next? (p : Progress) : Text → Option (Progress × Text)
  | [] => none
  | '(' :: t => p.group? t
  | ')' :: t =>
    match p.outside with
    | [] => none
    | flags :: outside => some ({ p with flags, outside, repeatable := true }, t)
  | '|' :: t => some ({ p with repeatable := false }, t)
  | '[' :: t => do
    let t ← class? p.flags (t.length + 1) 0 (← openClass? p.flags t)
    return ({ p with repeatable := true }, t)
  | '{' :: _ => none
  | '*' :: t | '+' :: t | '?' :: t => if p.repeatable then some (p, t) else none
  | '\\' :: t => do
    let (escape, t) ← Escape.read? t
    guard (escape.fits p.flags)
    return ({ p with repeatable := true }, t)
  | '.' :: t => if p.flags.unicode then some ({ p with repeatable := true }, t) else none
  | '^' :: t | '$' :: t => some ({ p with repeatable := true }, t)
  | _ :: t => if p.flags.allowsCharacters then some ({ p with repeatable := true }, t) else none

/--
Whether a text is a regular expression.
-/
def isRegular (t : Text) : Bool :=
  go (t.length + 1) ⟨.initial, [], [], false⟩ t
where
  go : Nat → Progress → Text → Bool
    | 0, _, _ => false
    | fuel + 1, p, t =>
      match skip p.flags t with
      | [] => p.outside.isEmpty
      | t =>
        match p.next? t with
        | none => false
        | some (p, t) => go fuel p t

/--
Whether a text is the value of a field.
-/
def isValue (t : Text) : Bool :=
  (Double.read? t).isSome || isRegular t

end Pattern
end Stackline
