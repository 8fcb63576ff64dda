import LoggerTree.CommandLine

/-! # The program

    Reads the configuration file that is asked for and prints the answer.
-/

namespace LoggerTree.CommandLine

/-- What can be read at a path. -/
def lookAt (path : String) : IO (Option (Except FileError String)) := do
  try
    let bytes ← IO.FS.readBinFile path
    match String.fromUTF8? bytes with
    | some s => return some (.ok s)
    | none => return some (.error .notUtf8)
  catch
    | .permissionDenied .. => return some (.error .forbidden)
    | .inappropriateType .. => return some (.error .isFolder)
    | _ => return none

/-- Answers arguments and gives the code to exit with. -/
def serve (arguments : List String) : IO UInt32 := do
  let preset := (← IO.getEnv "LAZYLOG_CONFIG").map String.toList
  let arguments := arguments.map String.toList
  let content ← match parse preset arguments with
    | .request (.check _ path) => lookAt (String.ofList path)
    | _ => pure none
  let output := run (fun _ => content) preset arguments
  IO.print output.stdout
  IO.eprint output.stderr
  return output.exit.toUInt32

end LoggerTree.CommandLine

def main (arguments : List String) : IO UInt32 :=
  LoggerTree.CommandLine.serve arguments
