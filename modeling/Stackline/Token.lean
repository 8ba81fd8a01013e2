import Stackline.Mnemonic

/-!
Tokens, the flat form of a program: an instruction is one token followed by those of its operands.
-/

namespace Stackline

/--
A range of bytes of the source.
-/
structure Span where
  offset : Nat
  length : Nat
  deriving Repr, DecidableEq

/--
A place in the source: the number of a line, counted from one, and the bytes of its trimmed text.
-/
structure Position where
  line : Nat
  span : Span
  deriving Repr, DecidableEq

/--
The place before the first line.
-/
def Position.start : Position :=
  ⟨0, ⟨0, 0⟩⟩

inductive Kind where
  | instruction (m : Mnemonic)
  | type
  | value
  | ident
  | eof
  deriving Repr, DecidableEq

namespace Kind

def all : List Kind :=
  Mnemonic.all.map .instruction ++ [.type, .value, .ident, .eof]

def name : Kind → String
  | .instruction m => m.name
  | .type => "TYPE"
  | .value => "VALUE"
  | .ident => "IDENT"
  | .eof => "EOF"

/--
The kind of a displayed name.
-/
def ofName? (name : String) : Option Kind :=
  all.find? fun kind => kind.name = name

theorem ofName?_name (kind : Kind) : ofName? kind.name = some kind := by
  cases kind with
  | instruction m =>
    cases m with
    | arith op => cases op <;> rfl
    | _ => rfl
  | _ => rfl

end Kind

inductive Payload where
  /-- A name or the text of a literal, as it stands in the source. -/
  | text (t : Text)
  | type (ty : Ty)
  /-- Tells that a token of this kind follows and belongs to the instruction. -/
  | sentinel (kind : Kind)
  deriving Repr, DecidableEq

structure Token where
  kind : Kind
  position : Position
  payload : Option Payload
  deriving Repr, DecidableEq

namespace Token

def text? (token : Token) : Option Text :=
  match token.payload with
  | some (.text t) => some t
  | _ => none

def type? (token : Token) : Option Ty :=
  match token.payload with
  | some (.type ty) => some ty
  | _ => none

/--
The text of what a token carries; the sentinel is set apart by angle brackets.
-/
def displayPayload : Option Payload → Text
  | some (.text t) => t
  | some (.type ty) => ty.name.toList
  | some (.sentinel kind) => '<' :: kind.name.toList ++ ['>']
  | none => "null".toList

/--
One line of a token dump: the line number, right-aligned to four places, the kind and the payload.
-/
def display (token : Token) : Text :=
  List.leftpad 4 ' ' (Nat.toDigits 10 token.position.line) ++
    ' ' :: token.kind.name.toList ++ ' ' :: displayPayload token.payload

end Token
end Stackline
