import HiveDump.Hive.Item

/-!
# Diagnostics

What a run tells its user beside the document, in one ordered list: the warnings of the error
policy, and the lines of the log. A log line names the part of the program that wrote it.
-/

namespace HiveDump

/-- The parts of the program that write log lines. -/
inductive Channel
  | image
  | walk
  | encoding
  | report
  | writer
  | conversion
  deriving DecidableEq, Repr

/-- The name of a part in the log. -/
def Channel.name : Channel → String
  | image => "hivexml.adapters.registry"
  | walk => "hivexml.core.traverser"
  | encoding => "hivexml.xml.encoding"
  | report => "hivexml.xml.serializer"
  | writer => "hivexml.xml.writer"
  | conversion => "hivexml.api"

/-- How important a log line is. -/
inductive Severity
  | debug
  | warning
  deriving DecidableEq, Repr

/-- The name of a severity in the log. -/
def Severity.name : Severity → String
  | debug => "DEBUG"
  | warning => "WARNING"

/-- A line of the log. -/
structure LogLine where
  severity : Severity
  channel : Channel
  message : String
  deriving DecidableEq, Repr

namespace LogLine

/-- Whether a log that starts at `threshold` holds the line. -/
def reaches (line : LogLine) (threshold : Severity) : Bool :=
  threshold == .debug || line.severity == .warning

/-- The line with its severity. -/
def labelled (line : LogLine) : String :=
  s!"{line.severity.name} {line.channel.name}: {line.message}"

end LogLine

/-- Something the user is told. -/
inductive Diagnostic
  | warning (text : String)
  | log (line : LogLine)
  deriving DecidableEq, Repr

namespace Diagnostic

/-- The text of a warning. -/
def warning? : Diagnostic → Option String
  | warning text => some text
  | log _ => none

/-- A line of the log. -/
def log? : Diagnostic → Option LogLine
  | log line => some line
  | warning _ => none

/-- The warnings of a run, each on a line of its own. -/
def warnings (ds : List Diagnostic) : String :=
  String.join ((ds.filterMap warning?).map (· ++ "\n"))

/-- The log of a run from a severity upwards. -/
def logOf (threshold : Severity) (ds : List Diagnostic) : List LogLine :=
  (ds.filterMap log?).filter (·.reaches threshold)

end Diagnostic

end HiveDump
