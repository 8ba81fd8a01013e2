import Stackline.Token

/-!
Statements, the instructions of a program with their operands, and the tokens that stand for them.
-/

namespace Stackline

/--
What `push` and `pushd` put on the stack.
-/
inductive Operand where
  /-- The value of a variable, whose name may be left out. -/
  | name (name? : Option Text)
  | literal (ty : Ty) (text : Text)
  deriving Repr, DecidableEq

inductive Statement where
  | push (operand : Operand)
  | pushd (operand : Operand)
  | arith (op : Operator)
  /-- Take the top value off the stack and forget it. -/
  | discard
  | pop (name? : Option Text)
  | drop (name? : Option Text)
  | var (ty : Ty) (name : Text)
  | move (name text : Text)
  | print
  | printVariable (name : Text)
  deriving Repr, DecidableEq

namespace Statement

def mnemonic : Statement → Mnemonic
  | .push _ => .push
  | .pushd _ => .pushd
  | .arith op => .arith op
  | .discard | .pop _ => .pop
  | .drop _ => .drop
  | .var .. => .var
  | .move .. => .move
  | .print | .printVariable _ => .print

/--
The kinds and payloads of the tokens that stand for an operand.
-/
def operandShape : Operand → List (Kind × Option Payload)
  | .name name? => [(.ident, name?.map .text)]
  | .literal ty text => [(.type, some (.type ty)), (.value, some (.text text))]

/--
The kinds and payloads of the tokens that stand for a statement.
-/
def shape : Statement → List (Kind × Option Payload)
  | .push operand => (.instruction .push, none) :: operandShape operand
  | .pushd operand => (.instruction .pushd, none) :: operandShape operand
  | .arith op => [(.instruction (.arith op), none)]
  | .discard => [(.instruction .pop, none), (.instruction .drop, none)]
  | .pop name? => [(.instruction .pop, none), (.ident, name?.map .text)]
  | .drop name? => [(.instruction .drop, none), (.ident, name?.map .text)]
  | .var ty name =>
    [(.instruction .var, none), (.type, some (.type ty)), (.ident, some (.text name))]
  | .move name text =>
    [(.instruction .move, none), (.ident, some (.text name)), (.value, some (.text text))]
  | .print => [(.instruction .print, none)]
  | .printVariable name =>
    [(.instruction .print, some (.sentinel .ident)), (.ident, some (.text name))]

/--
The tokens of a statement, all of which have the position of its line.
-/
def tokens (s : Statement) (position : Position) : List Token :=
  s.shape.map fun (kind, payload) => ⟨kind, position, payload⟩

end Statement
end Stackline
