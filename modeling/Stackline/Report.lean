import Stackline.Log.Event
import Stackline.Program

/-!
What running a program or showing its tokens leaves behind. What is logged on the way does not
matter to the rest, so it is left open which events a log shows.
-/

namespace Stackline

/--
What the program leaves behind.
-/
structure Report where
  /-- The bytes on the standard output. -/
  output : List UInt8
  exitCode : Nat
  /-- The complaint that goes to the standard error. -/
  complaint? : Option String
  /-- Whether a log was written to the standard error. -/
  logged : Bool
  deriving Repr, DecidableEq

namespace Report

/--
The report of a program that wrote `output` and stopped with a fault, or with none.
-/
def ofOutcome (output : List UInt8) (fault? : Option Fault) (logged : Bool) : Report :=
  ⟨output, (fault?.map Fault.exitCode).getD 0, fault?.map Fault.message, logged⟩

/--
Whether nothing went to the standard error.
-/
def isQuiet (report : Report) : Bool :=
  report.complaint?.isNone && !report.logged

end Report

/--
Run a program and report what it printed. Whether events leave something in the log is told by
`logs`.
-/
def executeSource (source : Text) (logs : List LogEvent → Bool) : Report :=
  let outcome := run source (Store.empty none)
  Report.ofOutcome outcome.state.sink.written.toList outcome.fault?
    (logs (Source.runEvents source))

/--
Report the tokens of a program, and nothing if a line is malformed.
-/
def dumpSource (source : Text) (logs : List LogEvent → Bool) : Report :=
  let logged := logs (Source.readEvents source)
  match Source.lex source with
  | .error fault => Report.ofOutcome [] (some fault) logged
  | .ok tokens => Report.ofOutcome (Text.utf8 (Token.dump tokens)) none logged

end Stackline
