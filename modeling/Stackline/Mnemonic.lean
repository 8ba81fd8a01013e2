import Stackline.Operator
import Stackline.Text.Blank

/-!
The words that begin an instruction.
-/

namespace Stackline

inductive Mnemonic where
  | push
  | pushd
  | arith (op : Operator)
  | pop
  | drop
  | var
  | move
  | print
  deriving Repr, DecidableEq

namespace Mnemonic

/--
All instruction words, a longer one before those it begins with.
-/
def all : List Mnemonic :=
  [.pushd, .push] ++ Operator.all.map .arith ++ [.pop, .drop, .var, .move, .print]

def word : Mnemonic → String
  | .push => "push"
  | .pushd => "pushd"
  | .arith op => op.word
  | .pop => "pop"
  | .drop => "drop"
  | .var => "var"
  | .move => "move"
  | .print => "print"

/--
The name of an instruction where it is displayed.
-/
def name : Mnemonic → String
  | .push => "PUSH"
  | .pushd => "PUSHD"
  | .arith .add => "ADD"
  | .arith .sub => "SUB"
  | .arith .mul => "MUL"
  | .arith .div => "DIV"
  | .arith .fdiv => "FDIV"
  | .arith .pow => "POW"
  | .pop => "POP"
  | .drop => "DROP"
  | .var => "VAR"
  | .move => "MOVE"
  | .print => "PRINT"

/--
The number of values that an instruction of this name takes off the stack.
-/
def needs : Mnemonic → Nat
  | .arith _ => 2
  | .pop | .print => 1
  | .push | .pushd | .drop | .var | .move => 0

/--
The instruction that a line begins with, and the line behind its word and the blanks that follow.
-/
def split? (line : Text) : Option (Mnemonic × Text) :=
  all.findSome? fun m => (Text.dropWord? m.word.toList line).map fun rest => (m, rest)

theorem mem_all (m : Mnemonic) : m ∈ all := by
  cases m with
  | arith op => cases op <;> decide
  | _ => decide

theorem split?_eq_none_iff {line : Text} :
    split? line = none ↔ ∀ m : Mnemonic, Text.dropWord? m.word.toList line = none := by
  simp only [split?, List.findSome?_eq_none_iff, Option.map_eq_none_iff]
  exact ⟨fun h m => h m (mem_all m), fun h m _ => h m⟩

end Mnemonic

/--
Words that can not name a variable. Those that are no instruction are set aside for later use.
-/
def reservedWords : List String :=
  ["push", "pushd", "add", "sub", "print", "pop", "drop", "var", "move", "mul", "div", "fdiv",
   "pow", "new", "//", "in", "if", "loop", "for", "end", "start", "funk"]

def isReserved (name : Text) : Bool :=
  reservedWords.any fun word => Text.eqFold name word.toList

theorem isReserved_word (m : Mnemonic) : isReserved m.word.toList := by
  cases m with
  | arith op => cases op <;> decide
  | _ => decide

end Stackline
