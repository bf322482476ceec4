import ChangeImpact.CommandLine.Run
import ChangeImpact.Json.Reader
import ChangeImpact.Session.Decode
/-!
# The command line

The arguments of the program come from the command line and the world that it meets from the
standard input, described in JSON. What it writes, and its status, are those of the run.
-/
set_option autoImplicit false

namespace ChangeImpact.CommandLine

partial def readLines (input : IO.FS.Stream) (read : String) : IO String := do
  let line ← input.getLine
  if line.isEmpty then return read else readLines input (read ++ line)

def finish (finished : Finished) : IO UInt32 := do
  IO.print finished.output.display
  match finished.exit with
  | .returned status => return UInt32.ofNat status
  | .stopped status errorText =>
      IO.eprint (Text.display errorText)
      return UInt32.ofNat status
  | .escaped failure =>
      IO.eprintln (Text.display failure.message)
      return 1
  | .waiting =>
      IO.eprintln "the analyzer does not end"
      return 1

def runDescribed (arguments : List String) : IO UInt32 := do
  let description ← readLines (← IO.getStdin) ""
  match Json.read (Text.ofString description) with
  | .error error =>
      IO.eprintln error.message
      return 2
  | .ok value => finish ((Session.world value).invoke (arguments.map Text.ofString))

end ChangeImpact.CommandLine

def main (arguments : List String) : IO UInt32 :=
  ChangeImpact.CommandLine.runDescribed arguments
