import HiveDump.CommandLine.Run

/-!
# The program

Reads the file that the arguments name, and prints what `CommandLine.run` says.
-/

namespace HiveDump

/-- What the system says about a file that cannot be read. -/
def systemText : IO.Error → String
  | .noFileOrDirectory _ _ details => details.capitalize
  | .inappropriateType _ _ details => details.capitalize
  | .permissionDenied _ _ details => details.capitalize
  | error => toString error

/-- The file that the arguments name, if they name one. -/
def namedFile? (arguments : List String) : Option String :=
  match Arguments.plan arguments with
  | .run i => i.file
  | _ => none

/-- The content of a file. -/
def readFile (path : String) : IO (Except Fault ByteArray) := do
  try
    return .ok (← IO.FS.readBinFile path)
  catch error =>
    return .error (.unopenable path (.file (systemText error)))

end HiveDump

open HiveDump in
/-- Runs the program; its result is the exit status. -/
def main (arguments : List String) : IO UInt32 := do
  let content ← match namedFile? arguments with
    | some path => readFile path
    | none => pure (.ok .empty)
  let result := CommandLine.run (fun _ => content) .working arguments
  let output ← IO.getStdout
  output.putStr result.output
  output.write result.document.toByteArray
  output.flush
  let errors ← IO.getStderr
  errors.putStr result.errors
  match result.ending with
  | .status code => return UInt32.ofNat code
  | .fault fault =>
    errors.putStrLn fault.message
    return 1
