import HiveDump.CommandLine.Arguments
import HiveDump.Conversion
import HiveDump.Image.Hive

/-!
# A run of the command line

`CommandLine.run` says what a run with some arguments prints and how it ends: 0 if the document is
complete, 1 if no file was named or the conversion failed, 2 if the arguments make no sense.

The document goes to the standard output. A fault of the program's own is reported in one line, with
the name of the program in front, and that of the file unless the fault names it. Any other fault
ends the run without a report.
-/

namespace HiveDump.CommandLine

/-- The name of the program. -/
def program : String := "hivexml"

/-- What the program prints about its version. -/
def versionText : String := s!"{program} 0.3.0\n"

/-- How the program is called. -/
def usage : String := s!"usage: {program} [-h] [-d] [-k] [--version] [hive]\n"

/-- What the program prints about itself. -/
def helpText : String :=
  usage ++ "\nConvert a Windows Registry hive file to XML on stdout.\n" ++
  "\npositional arguments:\n" ++
  "  hive              hive file to convert\n" ++
  "\noptions:\n" ++
  "  -h, --help        show this help message and exit\n" ++
  "  -d, --debug       open the hive in debug mode and log details to stderr\n" ++
  "  -k, --keep-going  skip malformed keys and values instead of stopping\n" ++
  "  --version         show program's version number and exit\n"

/-- How a run ends. -/
inductive Ending
  | status (code : Nat)
  /-- With a fault that is not reported. -/
  | fault (f : Fault)
  deriving DecidableEq, Repr

/-- What a run leaves behind. -/
structure Result where
  ending : Ending
  output : String := ""
  errors : String := ""
  document : Bytes := []

/-- A line of a diagnostic on the terminal, if the log reaches that far. -/
def diagnosticLine (threshold : Severity) : Diagnostic → String
  | .warning text => text ++ "\n"
  | .log line =>
    if line.reaches threshold then s!"{program}: {line.channel.name}: {line.message}\n" else ""

/-- Whether the wording of a fault names what it is about. -/
def namesItself (kind : FaultKind) : Bool :=
  kind == .opening || kind == .closing || kind == .writing || kind == .invariant

/-- The line about the fault that ended a run. -/
def faultLine (file : String) (fault : Fault) : String :=
  if namesItself fault.kind then s!"{program}: {fault.message}\n"
  else s!"{program}: {file}: {fault.message}\n"

/-- Converts the file that a run names; `read` gives the content of a file. -/
def convertFile (read : String → Except Fault ByteArray) (device : Device) (i : Invocation)
    (file : String) : Result :=
  let opening := match read file with
    | .error fault => (.error fault, [])
    | .ok content =>
      let (opened, trace) := HiveFile.ofFile file content i.debug
      (opened.map HiveFile.source, trace)
  let outcome := Conversion.convertWith
    { debug := i.debug, skipBad := i.keepGoing } device opening
  let threshold := if i.debug then Severity.debug else .warning
  let told := String.join (outcome.diagnostics.map (diagnosticLine threshold))
  let document := outcome.document.getD []
  match outcome.result with
  | .ok _ => { ending := .status 0, errors := told, document := document }
  | .error fault =>
    if fault.kind.isOwn then
      { ending := .status 1, errors := told ++ faultLine file fault, document := document }
    else { ending := .fault fault, errors := told, document := document }

/-- A run with some arguments. -/
def run (read : String → Except Fault ByteArray) (device : Device) (arguments : List String) :
    Result :=
  match Arguments.plan arguments with
  | .help => { ending := .status 0, output := helpText }
  | .version => { ending := .status 0, output := versionText }
  | .complain text => { ending := .status 2, errors := usage ++ s!"{program}: error: {text}\n" }
  | .run i =>
    match i.file with
    | none =>
      { ending := .status 1, errors := s!"{program}: missing name of input file\n" ++ usage }
    | some file => convertFile read device i file

end HiveDump.CommandLine
