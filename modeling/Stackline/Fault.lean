import Stackline.Scope
import Stackline.Text.Quoted

/-!
Everything that can go wrong, by its cause, and the description of each cause that users see.
-/

namespace Stackline

/--
Why a line can not be read or an instruction can not be executed.
-/
inductive Cause where
  /-- The line begins with no instruction word. -/
  | unknownInstruction (line : Text)
  /-- The first of several words behind the instruction is no type. -/
  | unknownType (operand : Text)
  | declarationForm
  | assignmentForm
  /-- The name of an assignment consists of digits. -/
  | numericName
  | notInstruction (kind : Kind)
  | unexpectedToken (after found : Kind)
  | missingOpeningQuote
  | missingClosingQuote
  | badName (name : Text)
  /-- The tokens end inside or before an instruction. -/
  | outOfTokens
  | missingName (m : Mnemonic)
  /-- A type and the text of a literal do not both come with their tokens. -/
  | incompleteLiteral
  | unassigned (name : Text)
  | arithmetic (error : ArithmeticError)
  | leftoverValues (stack : List Value)
  | leftoverVariables (left : List Variable)
  | stackUnderflow (m : Mnemonic)
  | unknownVariable (name : Text)
  | reservedName (name : Text)
  | alreadyDefined (name : Text) (line : Nat)
  | boolOperand (op : Operator)
  | incompatibleLiteral (text : Text)
  | negativeInteger (text : Text)
  | negativeFloat (text : Text)
  | invalidBoolean (text : Text)
  deriving Repr, DecidableEq

/--
Why the text of a program can not be read.
-/
inductive Unreadable where
  | missing
  | directory
  | notText
  | inaccessible
  deriving Repr, DecidableEq

inductive Fault where
  /-- A fault of the program itself. -/
  | located (position : Position) (cause : Cause)
  | unreadable (path : String) (reason : Unreadable)
  /-- The sink refused a part of the output. -/
  | output
  deriving Repr, DecidableEq

/--
The kinds of cause that users tell apart.
-/
inductive Category where
  | syntaxError
  | runtime
  | stackUnderflow
  | unknownVariable
  | redefinition
  | typeMismatch
  deriving Repr, DecidableEq

namespace Category

/--
The stable code of a category.
-/
def code : Category → String
  | .syntaxError => "scry::syntax"
  | .runtime => "scry::runtime"
  | .stackUnderflow => "scry::stack_underflow"
  | .unknownVariable => "scry::unknown_variable"
  | .redefinition => "scry::redefinition"
  | .typeMismatch => "scry::type_mismatch"

/--
The words with which a message of the category begins.
-/
def title : Category → String
  | .syntaxError => "syntax error"
  | .runtime => "runtime error"
  | .stackUnderflow => "not enough data on the stack"
  | .unknownVariable => "unknown variable"
  | .redefinition => "cannot redefine"
  | .typeMismatch => "type mismatch"

/--
The remark at the place that a fault of the category points at.
-/
def remark : Category → String
  | .syntaxError => "this line"
  | .runtime => "here"
  | .stackUnderflow => "stack is too short here"
  | .unknownVariable => "not in scope"
  | .redefinition => "declared here"
  | .typeMismatch => "this value"

end Category

namespace Cause

def category : Cause → Category
  | .unknownInstruction _ | .unknownType _ | .declarationForm | .assignmentForm | .numericName
  | .notInstruction _ | .unexpectedToken .. | .missingOpeningQuote | .missingClosingQuote
  | .badName _ => .syntaxError
  | .outOfTokens | .missingName _ | .incompleteLiteral | .unassigned _ | .arithmetic _
  | .leftoverValues _ | .leftoverVariables _ => .runtime
  | .stackUnderflow _ => .stackUnderflow
  | .unknownVariable _ => .unknownVariable
  | .reservedName _ | .alreadyDefined .. => .redefinition
  | .boolOperand _ | .incompatibleLiteral _ | .negativeInteger _ | .negativeFloat _
  | .invalidBoolean _ => .typeMismatch

/--
The part of a message that tells one cause from the others of its category.
-/
def detail : Cause → String
  | .unknownInstruction line => s!"invalid syntax -> {String.ofList line}"
  | .unknownType operand => s!"invalid type -> {String.ofList operand}"
  | .declarationForm => "var must be followed by type and then name"
  | .assignmentForm => "move requires a variable and a value to move"
  | .numericName => "variables can not contain only numbers"
  | .notInstruction kind => s!"{kind.name} is not an instruction"
  | .unexpectedToken after found => s!"invalid token after {after.name} -> {found.name}"
  | .missingOpeningQuote => "missing opening `\"`"
  | .missingClosingQuote => "missing closing `\"`"
  | .badName name => s!"bad variable name -> {quote name} can not contain spaces or brackets"
  | .outOfTokens => "ran out of instructions, expected another token"
  | .missingName .pop => "missing variable name after pop"
  | .missingName m => s!"missing variable name after {m.name}"
  | .incompleteLiteral => "failed to parse types"
  | .unassigned name => s!"{quote name} has no value yet"
  | .arithmetic error => error.message
  | .leftoverValues stack =>
    let items := ", ".intercalate (stack.map fun v => String.ofList v.display)
    s!"unhandled data on the stack -> {stack.length} items (top first: {items})"
  | .leftoverVariables left =>
    let items := left.map fun x => s!"line {x.position.line} -> {quote x.name}"
    "variables not dropped: " ++ ", ".intercalate items
  | .stackUnderflow m => s!"`{m.word}` needs {m.needs} value(s)"
  | .unknownVariable name => quote name
  | .reservedName name => s!"{quote name} is a reserved keyword"
  | .alreadyDefined name line => s!"{quote name} is already defined on line {line}"
  | .boolOperand op => s!"cannot {op.word} bools"
  | .incompatibleLiteral text => s!"value incompatible with type -> {quote text}"
  | .negativeInteger text => s!"unsigned int can not be negative -> {quote text}"
  | .negativeFloat text => s!"unsigned float can not be negative -> {quote text}"
  | .invalidBoolean text => s!"invalid boolean value -> {quote text}"
where
  quote (t : Text) : String :=
    String.ofList (Text.quoted t)

/--
Advice on how to mend a program.
-/
def help? : Cause → Option String
  | .stackUnderflow m => some s!"push more values before `{m.word}`"
  | .unknownVariable name => some s!"declare it first with `var <type> {String.ofList name}`"
  | _ => none

end Cause

/--
A remark at a place in the source.
-/
structure Label where
  text : String
  span : Span
  deriving Repr, DecidableEq

namespace Fault

def message : Fault → String
  | .located position cause =>
    s!"{cause.category.title}, line {position.line} -> {cause.detail}"
  | .unreadable path _ => s!"reading `{path}` failed"
  | .output => "writing program output failed"

def position? : Fault → Option Position
  | .located position _ => some position
  | .unreadable .. | .output => none

/--
The exit status of a program that stops with a fault: malformed data, missing input or a failure
of the program.
-/
def exitCode : Fault → Nat
  | .located _ cause => if cause.category = .syntaxError then 65 else 70
  | .unreadable .. => 66
  | .output => 70

/--
The stable code of a fault.
-/
def code : Fault → String
  | .located _ cause => cause.category.code
  | .unreadable .. => "scry::io"
  | .output => "scry::output"

def help? : Fault → Option String
  | .located _ cause => cause.help?
  | .unreadable .. | .output => none

/--
The remarks of a fault: one at its own place, then one for each variable that it lists.
-/
def labels : Fault → List Label
  | .located position cause => ⟨cause.category.remark, position.span⟩ :: related cause
  | .unreadable .. | .output => []
where
  related : Cause → List Label
    | .leftoverVariables left =>
      left.map fun x => ⟨s!"`{String.ofList x.name}` declared here", x.position.span⟩
    | _ => []

end Fault
end Stackline
