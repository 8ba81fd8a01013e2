import Stackline.Fault
import Stackline.Statement.Basic

/-!
Reading one line as a statement. An instruction word may be followed by its operand without a
blank, and arithmetic instructions ignore the rest of their line.
-/

namespace Stackline

/--
A text as a name, which is left out if the text is empty.
-/
def Text.nonempty? (t : Text) : Option Text :=
  if t.isEmpty then none else some t

/--
Read a lone word as a name, and several words as a type and the text of a literal.
-/
def Operand.parse (t : Text) : Except Cause Operand :=
  match t.cut? Text.isBlank with
  | none => .ok (.name t.nonempty?)
  | some (word, text) =>
    match Ty.ofWord? word with
    | none => .error (.unknownType t)
    | some ty => .ok (.literal ty (Text.trimStart text))

namespace Statement

def parseVar (rest : Text) : Except Cause Statement :=
  match Operand.parse rest with
  | .error cause => .error cause
  | .ok (.literal ty name) => .ok (.var ty name)
  | .ok (.name _) => .error .declarationForm

def parseMove (rest : Text) : Except Cause Statement :=
  match rest.cut? Text.isBlank with
  | none => .error .assignmentForm
  | some (name, text) =>
    if name.all Char.isDigit then .error .numericName else .ok (.move name (Text.trim text))

/--
Read what stands behind an instruction word.
-/
def parseRest (rest : Text) : Mnemonic → Except Cause Statement
  | .push => (Operand.parse rest).map .push
  | .pushd => (Operand.parse rest).map .pushd
  | .arith op => .ok (.arith op)
  | .pop => .ok (if rest = "drop".toList then .discard else .pop rest.nonempty?)
  | .drop => .ok (.drop rest.nonempty?)
  | .var => parseVar rest
  | .move => parseMove rest
  | .print => .ok (if rest.isEmpty then .print else .printVariable rest)

/--
Read a line without blanks around it as a statement.
-/
def parse (line : Text) : Except Cause Statement :=
  match Mnemonic.split? line with
  | none => .error (.unknownInstruction line)
  | some (m, rest) => parseRest rest m

end Statement
end Stackline
