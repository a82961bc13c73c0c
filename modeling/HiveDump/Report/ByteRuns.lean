import HiveDump.Hive.Source
import HiveDump.Report.Attribute

/-!
# Byte runs

A byte run says where in the hive's file something lies. A node has one, its record. A value has
one for its record and, if its payload does not fit into the record, one for the payload's cell.

All questions are asked before anything is written, so a failed one leaves no trace in the
document.
-/

namespace HiveDump

/-- Payloads of up to this many bytes stand in the value's record. -/
def inlineLimit : Int := 4

namespace Report

/-- Writes an element with some content. -/
def element {α : Type} (name : String) (content : Action Writer α) : Action Writer α := do
  Action.write (Writer.startElement name)
  let a ← content
  Action.write Writer.endElement
  return a

/-- Writes an attribute of the element that has just been opened. -/
def writeAttribute (name value : String) : Action Writer Unit :=
  Action.write (Writer.writeAttribute name value)

/-- The result of a question to a source. -/
def ask {α : Type} (answer : Except Fault α) (wrap : Fault → Fault) : Action Writer α :=
  match answer with
  | .ok a => pure a
  | .error fault => throw (wrap fault)

/-- Writes one byte run. -/
def byteRun (offset length : Int) : Action Writer Unit :=
  element "byte_run" do
    writeAttribute "file_offset" (toString offset)
    writeAttribute "len" (toString length)

/-- The fault of a question about something that is no node. -/
def nodeFault (handle : Int) (fault : Fault) : Fault :=
  if fault.kind == .invalidHandle then .notANode handle fault else fault

/-- The fault of a question about something that is no value. -/
def valueFault (handle : Int) (fault : Fault) : Fault :=
  if fault.kind == .invalidHandle then .notAValue handle fault else fault

/-- The fault of a question for a data cell: an unusable answer is one about the value. -/
def cellFault (handle : Int) (fault : Fault) : Fault :=
  match fault.kind with
  | .badValue | .undecodable | .unencodable | .badName | .badKey | .badIndex =>
    .unlocatedDataCell handle fault
  | _ => fault

/-- Writes the byte run of a node. -/
def nodeByteRuns (src : Source) (n : Node) : Action Writer Unit := do
  let length ← ask (src.nodeLength n) (nodeFault n.handle)
  element "byte_runs" (byteRun n.handle length)

/-- Writes the byte runs of a value, and gives their number. -/
def valueByteRuns (src : Source) (v : Value) : Action Writer Nat := do
  let length ← ask (src.valueLength v) (valueFault v.handle)
  let (cellOffset, cellLength) ← ask (src.dataCell v) (cellFault v.handle)
  element "byte_runs" do
    byteRun v.handle length
    if inlineLimit < cellLength then
      byteRun cellOffset cellLength
      return 2
    else return 1

end Report

end HiveDump
