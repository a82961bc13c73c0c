import HiveDump.Config
import HiveDump.Report.Element
import HiveDump.Walk.Run

/-!
# Converting a hive to a document

The document is an element `hive` with the time of the hive and the element of its root. It is
written while the hive is walked, so it stays cut off where a run fails.

The hive is closed once, before the document is finished. If it does not close, the document stays
cut off. If something else failed before, that fault is raised, and a fault of class `closing` is
only logged; any other fault of closing takes its place.
-/

namespace HiveDump

/-- A report to a writer as a visitor. -/
def Report.visitor (src : Source) : Visitor Writer where
  enter := nodeStart src
  value _ v := Report.value src v
  leave _ := nodeEnd

/-- A call that closed the hive, or failed to. -/
structure Closing where
  outcome : Except Fault Unit
  /-- How many pieces of the document had been written. -/
  written : Nat

/-- A conversion: the session of its report, and the calls that closed the hive. -/
structure Conversion where
  session : Session Writer
  closings : List Closing := []

namespace Conversion

/-- A step of a conversion. -/
abbrev Step (α : Type) := ExceptT Fault (StateM Conversion) α

/-- A step of the report. -/
def report {α : Type} (act : Action Writer α) : Step α := do
  let c ← get
  let (result, session) := act.perform c.session
  set { c with session := session }
  match result with
  | .ok a => return a
  | .error fault => throw fault

/-- Closes the hive. -/
def close (src : Source) : Step Unit := do
  modify fun c =>
    { c with closings := c.closings ++ [⟨src.close, c.session.output.tokens.size⟩] }
  match src.close with
  | .ok _ => pure ()
  | .error fault => throw fault

/-- What is logged when the hive does not close behind a failure. -/
def unreleased (fault : Fault) : LogLine :=
  ⟨.warning, .conversion,
    s!"releasing the hive after a failed conversion also failed: {fault.message}"⟩

/-- Closes the hive while another fault is on its way. -/
def closeAfterFailure (src : Source) : Step Unit :=
  tryCatch (close src) fun fault =>
    if fault.kind == .closing then report <| Action.log (unreleased fault)
    else throw fault

/-- Everything up to the end of the root's element. -/
def body (src : Source) (skipping : Bool) : Action Writer Tally := do
  Action.write Writer.startDocument
  Action.write (Writer.startElement "hive")
  discard <| Report.timeElement (← Report.ask src.lastModified id)
  Walk.run src skipping (Report.visitor src)

/-- What follows when the hive is closed. -/
def finish : Action Writer Unit := do
  Action.write Writer.endElement
  Action.write Writer.endDocument
  Action.debug .writer "XML document finished"

/-- Converts a hive. -/
def convert (src : Source) (skipping : Bool) : Step Tally := do
  let tally ← tryCatch (report (body src skipping)) fun fault => do
    closeAfterFailure src
    throw fault
  close src
  report finish
  report <| Action.debug .conversion s!"hive converted: {Walk.describeTally tally}"
  return tally

/-- Runs a conversion, and lets go of its document. -/
def run (src : Source) (skipping : Bool) (start : Conversion) :
    Except Fault Tally × Conversion :=
  let (result, c) := (convert src skipping).run.run start
  let (_, c) := (report (Action.write Writer.release)).run.run c
  (result, c)

/-! ## From a configuration -/

/-- The arguments of a conversion that are given in any case. -/
def givenArguments : List String := ["hive", "output"]

/-- The configuration of a conversion that is called with options; they change `base` if there is
one. -/
def configOf (base : Option Config) (options : List (String × OptionValue)) :
    Except Fault Config :=
  match options.find? fun o => o.1 ∈ givenArguments, base with
  | some (name, _), _ => .error (.repeatedOption "hive_to_xml" name)
  | none, none => Config.ofOptions options
  | none, some config => config.replace options

/-- What a conversion leaves behind. -/
structure Outcome where
  result : Except Fault Tally
  /-- The document, if anything of it was written. -/
  document : Option Bytes := none
  policy : Option Policy := none
  diagnostics : List Diagnostic := []
  closings : List Closing := []

/-- Whether the hive was closed. -/
def Outcome.closed (o : Outcome) : Bool :=
  o.closings.any fun c => c.outcome.toBool

/-- Converts a hive that is opened, with a trace, once the configuration is found to be in order.
What the policy has recorded is kept even if the hive could not be opened. -/
def convertWith (config : Config) (device : Device)
    (opening : Except Fault Source × List LogLine) : Outcome :=
  match config.policy, config.complaints with
  | .policy policy, .ok [] =>
    let trace := opening.2.map Diagnostic.log
    match opening.1 with
    | .error fault => { result := .error fault, policy := some policy, diagnostics := trace }
    | .ok src =>
      let session : Session Writer :=
        { output := { label := config.encoding, device := device }
          policy := policy
          diagnostics := trace.toArray }
      let (result, c) := run src config.skipBad { session := session }
      { result := result
        document := c.session.output.bytes?
        policy := some c.session.policy
        diagnostics := c.session.diagnostics.toList
        closings := c.closings }
  | choice, .ok complaints =>
    { result := .error (.invalidConfiguration complaints), policy := choice.policy? }
  | choice, .error fault => { result := .error fault, policy := choice.policy? }

end Conversion

end HiveDump
