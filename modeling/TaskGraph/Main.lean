-- SUMMARY: The program: reads files, prints to the console, and sets the exit code.
import TaskGraph.CommandLine.Run

namespace TaskGraph.CommandLine

/-- The text of a file of the system. -/
def readFile (path : String) : IO (Except ReadError String) := do
  try
    let bytes ← IO.FS.readBinFile path
    match String.fromUTF8? bytes with
    | some text => return .ok text
    | none => return .error .notText
  catch
    | .noFileOrDirectory .. => return .error .missing
    | e => return .error (.other (toString e))

end TaskGraph.CommandLine

def main (args : List String) : IO UInt32 := do
  let outcome ← TaskGraph.CommandLine.run TaskGraph.CommandLine.readFile args
  match outcome with
  | .output text => IO.print text
  | .failed e => IO.eprintln s!"\nError: {e.message}"
  | .misused => IO.eprint TaskGraph.CommandLine.usage
  return outcome.exitCode
