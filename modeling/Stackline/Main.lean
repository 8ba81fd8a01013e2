import Stackline.CommandLine

/-!
The program: it looks up the file that its arguments name and leaves the report behind.
-/

namespace Stackline

/--
Look at what is found under a path.
-/
def lookup (path : String) : IO File := do
  try
    return .content (← IO.FS.readBinFile path)
  catch
    | .noFileOrDirectory .. => return .missing
    | .inappropriateType .. => return .directory
    | _ => return .inaccessible

end Stackline

open Stackline in
def main (words : List String) : IO UInt32 := do
  let request := Request.ofArguments (Argument.ofWords words)
  let file ← match request with
    | .execute path | .dump path => lookup path
    | _ => pure .missing
  let report := respond words (fun _ => file) LogFilter.silent
  let output ← IO.getStdout
  output.write ⟨report.output.toArray⟩
  output.flush
  if let some complaint := report.complaint? then
    IO.eprintln complaint
  return UInt32.ofNat report.exitCode
