import Stackline.Log.Filter
import Stackline.Report

/-!
The command line: what the arguments ask for, and what the program then answers.
-/

namespace Stackline

/--
What is found under a path.
-/
inductive File where
  | content (bytes : ByteArray)
  | missing
  | directory
  | inaccessible

/--
The text of a program under a path. It is taken as it is, and must be UTF-8.
-/
def readSource (path : String) : File → Except Fault Text
  | .content bytes =>
    match String.fromUTF8? bytes with
    | some source => .ok source.toList
    | none => .error (.unreadable path .notText)
  | .missing => .error (.unreadable path .missing)
  | .directory => .error (.unreadable path .directory)
  | .inaccessible => .error (.unreadable path .inaccessible)

inductive Argument where
  | help
  | version
  | tokens
  | operand (path : String)
  | unknown
  deriving Repr, DecidableEq

namespace Argument

def ofFlag : Char → Argument
  | 'h' => .help
  | 'V' => .version
  | 't' => .tokens
  | _ => .unknown

/--
The arguments that one word stands for; short flags may be joined behind one dash.
-/
def ofWord (word : String) : List Argument :=
  match word with
  | "--help" => [.help]
  | "--version" => [.version]
  | "--tokens" => [.tokens]
  | _ =>
    match word.toList with
    | '-' :: '-' :: _ => [.unknown]
    | '-' :: flag :: flags => (flag :: flags).map ofFlag
    | _ => [.operand word]

/--
The arguments of a command line. A word of two dashes ends the flags.
-/
def ofWords : List String → List Argument
  | [] => []
  | word :: words =>
    if word = "--" then words.map .operand else ofWord word ++ ofWords words

end Argument

/--
What a command line asks for.
-/
inductive Request where
  | help
  | version
  /-- The arguments make no sense. -/
  | refused
  | execute (path : String)
  | dump (path : String)
  deriving Repr, DecidableEq

/--
Go through the arguments from left to right until one of them decides.
-/
def Request.ofArguments (arguments : List Argument) : Request :=
  go none false arguments
where
  go (path? : Option String) (tokens : Bool) : List Argument → Request
    | [] =>
      match path? with
      | none => .refused
      | some path => if tokens then .dump path else .execute path
    | .help :: _ => .help
    | .version :: _ => .version
    | .unknown :: _ => .refused
    | .tokens :: rest => if tokens then .refused else go path? true rest
    | .operand path :: rest =>
      if path?.isSome || path.isEmpty then .refused else go (some path) tokens rest

def versionText : String :=
  "scry 0.1.0\n"

def usageText : String :=
  "Usage: scry [OPTIONS] <FILENAME>\n"

def helpText : String :=
  "Run a scry program\n\n" ++ usageText ++
    "\nArguments:\n" ++
    "  <FILENAME>  Path of the program to run\n" ++
    "\nOptions:\n" ++
    "  -t, --tokens   Print the token stream instead of running the program\n" ++
    "  -h, --help     Print help\n" ++
    "  -V, --version  Print version\n"

namespace Report

def message (text : String) (filter : LogFilter) : Report :=
  ⟨Text.utf8 text.toList, 0, none, filter.writes []⟩

def refusal (filter : LogFilter) : Report :=
  ⟨[], 2, some usageText, filter.writes []⟩

end Report

/--
Answer a command line, given what is found under a path and what is to be logged.
-/
def respond (words : List String) (lookup : String → File) (filter : LogFilter) : Report :=
  match Request.ofArguments (Argument.ofWords words) with
  | .help => Report.message helpText filter
  | .version => Report.message versionText filter
  | .refused => Report.refusal filter
  | .execute path => withSource path fun source => executeSource source filter.writes
  | .dump path => withSource path fun source => dumpSource source filter.writes
where
  withSource (path : String) (answer : Text → Report) : Report :=
    match readSource path (lookup path) with
    | .error fault => Report.ofOutcome [] (some fault) (filter.writes [])
    | .ok source => answer source

end Stackline
