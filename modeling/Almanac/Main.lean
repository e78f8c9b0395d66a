import Almanac.Cli.Run

/-!
# The command line

Reads the files that a request names and standard input where it is needed, prints the report or
the failure, and ends with the exit code of the outcome.
-/

namespace Almanac

open Cli

/-- The files of a request that can be read, with their contents. -/
def readFiles (paths : List String) : IO (List (String × String)) :=
  paths.filterMapM fun (path : String) => do
    try
      return some (path, ← IO.FS.readFile path)
    catch _ =>
      return none

/-- Standard input for a request that takes its fields from there. -/
def readStandardInput (request : Request) : IO String := do
  match request.command with
  | .date none _ => (← IO.getStdin).readToEnd
  | _ => return ""

end Almanac

open Almanac Cli in
/-- Runs the program. -/
def main (arguments : List String) : IO UInt32 := do
  let inputs ← match Request.ofArguments? arguments with
    | none => pure ⟨fun _ => none, ""⟩
    | some request => do
      let files ← readFiles request.files
      pure ⟨(files.lookup ·), ← readStandardInput request⟩
  let outcome := run arguments inputs Region.find?
  match outcome with
  | .misuse => IO.eprintln "error: the arguments are not understood"
  | .failed failure =>
    IO.eprintln ("Error: " ++ failure.message)
    if let some fault := failure.cause? then
      IO.eprintln ("\nCaused by:\n    " ++ fault.message)
  | .printed report => IO.println report.text
  return outcome.exitCode
