import Stackline.Source

/-!
What the interpreter can log about its work, and what it does log about a program.
-/

namespace Stackline

/--
How much is logged. Each level includes those before it.
-/
inductive LogLevel where
  | off
  | error
  | warn
  | info
  | debug
  | trace
  deriving Repr, DecidableEq

namespace LogLevel

def all : List LogLevel :=
  [.off, .error, .warn, .info, .debug, .trace]

def word : LogLevel → String
  | .off => "off"
  | .error => "error"
  | .warn => "warn"
  | .info => "info"
  | .debug => "debug"
  | .trace => "trace"

/--
The number of levels that a level includes.
-/
def rank : LogLevel → Nat
  | .off => 0
  | .error => 1
  | .warn => 2
  | .info => 3
  | .debug => 4
  | .trace => 5

/--
The level that a word or the numeral of a rank stands for. The numeral may have a plus sign.
-/
def ofWord? (word : Text) : Option LogLevel :=
  all.find? fun level => numeral? = some level.rank || Text.eqFold word level.word.toList
where
  numeral? : Option Nat :=
    let digits := (Text.dropFold? ['+'] word).getD word
    if Integer.isNumeral digits then some (Integer.ofNumeral digits) else none

end LogLevel

inductive LogEvent where
  /-- A line is read. -/
  | line
  /-- An instruction is executed. -/
  | instruction
  | push
  | pop
  | declaration
  /-- The end of the program is checked. -/
  | finish
  deriving Repr, DecidableEq

namespace LogEvent

/--
The part of the program that an event belongs to.
-/
def target : LogEvent → String
  | .line => "scry::lex"
  | .instruction | .push | .pop | .declaration | .finish => "scry::eval"

def level : LogEvent → LogLevel
  | .line | .instruction | .declaration | .finish => .debug
  | .push | .pop => .trace

/--
The names of what is told about an event.
-/
def fields : LogEvent → List String
  | .line => ["message", "line", "text"]
  | .instruction => ["message", "line", "kind"]
  | .push => ["message", "value", "depth"]
  | .pop => ["message", "depth"]
  | .declaration => ["message", "name", "ty", "line"]
  | .finish => ["message", "stack", "variables"]

end LogEvent

/--
The events of a statement that is executed to its end.
-/
def Statement.events : Statement → List LogEvent
  | .push _ | .pushd _ => [.instruction, .push]
  | .arith _ => [.instruction, .pop, .pop, .push]
  | .discard | .pop _ | .print => [.instruction, .pop]
  | .var .. => [.instruction, .declaration]
  | .drop _ | .move .. | .printVariable _ => [.instruction]

namespace Source

/--
The well-formed statements of a source.
-/
def statements (source : Text) : List Statement :=
  ((lines source).filter fun line => !line.isBlank).filterMap fun line => line.parse.toOption

/--
The events of reading a source.
-/
def readEvents (source : Text) : List LogEvent :=
  (statements source).map fun _ => .line

/--
The events of a program that runs to its end.
-/
def runEvents (source : Text) : List LogEvent :=
  readEvents source ++ (statements source).flatMap Statement.events ++ [.instruction, .finish]

end Source
end Stackline
