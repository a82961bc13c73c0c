import HiveDump.Hive.Shape
import HiveDump.Report.ByteRuns
import HiveDump.Time.FileTime

/-!
# Elements of nodes and values

A node becomes an element `node` with its name, its time, its byte runs and what lies below it. A
value becomes an element `value` with its type, its key, its payload and its byte runs. The form of
the payload depends on the value's shape:

* text is shown as it is or in base64, whichever is safe (`Report.safeAttribute`);
* a list of texts has an element `string` for each of them;
* numbers are signed decimals;
* text that did not decode and plain bytes are shown in base64;
* bytes of other kinds are shown in base64 only if there are any.

A missing name or a failed question about a handle is submitted to the error policy, and the
element is written without that part; only in the place of a node's time stamp the policy may have
one to go on with. A value that does not have the kind its step is for is refused before anything is
written.
-/

namespace HiveDump

/-- A node or a value in messages. -/
def Target.describe : Target → String
  | .nothing => "None"
  | .label text => Quoted.text text
  | .node n => n.describe
  | .value v => v.describe

namespace Report

/-! ## Surviving faults -/

/-- Runs a part of a report whose failure the error policy may let pass; then the report goes on with
what the policy answers. -/
def recover {α : Type} (op : Operation) (target : Target) (goOn : Option Int → α)
    (part : Action Writer α) : Action Writer α :=
  tryCatch part fun fault => do
    if fault.isRecoverable then
      Action.debug .report s!"{op} failed for {target.describe}: {fault.message}"
      return goOn (← Action.consult fault op target)
    else throw fault

/-- Runs a part of a report that may be given up, with nothing to go on with. -/
def attempt {α : Type} (op : Operation) (target : Target) (part : Action Writer α) :
    Action Writer Unit :=
  recover op target (fun _ => ()) (discard part)

/-! ## Names and times -/

/-- Writes the name of a node or value: its text, or its stored bytes if it did not decode. -/
def nameAttribute (op : Operation) (target : Target) (attributeName : String)
    (name : Option String) (stored : Bytes) : Action Writer Unit := do
  let encodingName := attributeName ++ "_encoding"
  if name.isNone && !stored.isEmpty then base64Attribute attributeName encodingName stored
  else
    attempt op target (safeAttribute (some attributeName) (some encodingName) (name.map .text))

/-- Writes a time stamp if it has a text, and tells whether it has. -/
def timeElement (ticks : Option Int) : Action Writer Bool := do
  match FileTime.optionalText? ticks with
  | none => return false
  | some text =>
    element "mtime" (Action.write (Writer.writeText text))
    return true

/-! ## Nodes -/

/-- Asks for the time stamp of a node. Where the question fails, the policy's answer stands in. -/
def nodeTime (src : Source) (n : Node) : Action Writer (Option Int) :=
  recover "node_timestamp" (.node n) id (ask (src.timestamp n) id)

/-- Opens the element of a node. -/
def nodeStart (src : Source) (n : Node) : Action Writer Unit := do
  Action.write (Writer.startElement "node")
  nameAttribute "node_start" (.node n) "name" n.name n.storedName
  if src.isRoot n then writeAttribute "root" "1"
  discard <| timeElement (← nodeTime src n)
  attempt "node_byte_runs" (.node n) (nodeByteRuns src n)

/-- Closes the element of a node. -/
def nodeEnd : Action Writer Unit :=
  Action.write Writer.endElement

/-! ## Values -/

/-- Opens the element of a value. -/
def valueStart (v : Value) (type : String) (encoding : Option AttributeEncoding) :
    Action Writer Unit := do
  Action.write (Writer.startElement "value")
  writeAttribute "type" type
  match encoding with
  | some e => writeAttribute "value_encoding" e.name
  | none => pure ()
  if v.isDefault then writeAttribute "default" "1"
  else nameAttribute "start_value" (.value v) "key" v.key v.storedKey

/-- Writes the byte runs of a value and closes its element. -/
def valueEnd (src : Source) (v : Value) : Action Writer Unit := do
  attempt "value_byte_runs" (.value v) (valueByteRuns src v)
  Action.write Writer.endElement

/-- Writes the first `length` bytes of a payload in base64. -/
def base64Payload (raw : Bytes) (length : Int) : Action Writer Unit := do
  Action.write (Writer.startAttribute "value")
  Action.write (Writer.writeBase64 raw 0 (some length))
  Action.write Writer.endAttribute

/-- The type of a kind that has no step of its own. -/
def unknownType : String := "unknown"

/-- The types of decoded texts. -/
def textType? : Kind → Option String
  | .string => some "string"
  | .expandString => some "expand"
  | .link => some "link"
  | .unnamed _ => some unknownType
  | _ => none

/-- The types of texts that did not decode. -/
def badTextType? : Kind → Option String
  | .string => some "bad-string"
  | .expandString => some "bad-expand"
  | .link => some "bad-link"
  | .strings => some "bad-string-list"
  | .unnamed _ => some unknownType
  | _ => none

/-- The types of resources. -/
def otherType? : Kind → Option String
  | .resourceList => some "resource-list"
  | .resourceDescription => some "resource-description"
  | .resourceRequirements => some "resource-requirements"
  | .unnamed _ => some unknownType
  | _ => none

/-- The type that a step gives to a kind of value; it refuses the kinds that are not its own. -/
def typeOf (shape : Shape) (kind : Kind) : Option String :=
  match shape with
  | .string => textType? kind
  | .badString => badTextType? kind
  | .other => otherType? kind
  | .strings => if kind = .strings then some "string-list" else none
  | .dword => if kind = .dword ∨ kind = .dwordBigEndian then some "int32" else none
  | .qword => if kind = .qword then some "int64" else none
  | .binary => if kind = .binary then some "binary" else none
  | .none => if kind = .none then some "none" else none

/-- Whether a step needs a decoded value. -/
def needsDecoded : Shape → Bool
  | .string | .strings => true
  | _ => false

/-- The type of a value in a step, or the fault that it was given to the wrong step. -/
def valueType (shape : Shape) (v : Value) : Except Fault String :=
  match typeOf shape v.kind with
  | some type =>
    if needsDecoded shape && !v.decoded then .error (.misrouted shape.handler v.kind false)
    else .ok type
  | none => .error (.misrouted shape.handler v.kind v.decoded)

/-- A payload as the data of an attribute. -/
def attributeData? : Payload → Option AttributeData
  | .text s => some (.text s)
  | .bytes b => some (.bytes b)
  | _ => none

/-- The texts of a payload that is a list. -/
def textEntries : Payload → List (Option String)
  | .texts ss => ss
  | _ => []

/-- The bytes of a payload. -/
def payloadBytes : Payload → Bytes
  | .bytes b => b
  | _ => []

/-- A number in two's complement of a width, as a decimal. -/
def signed (bits : Nat) (n : Int) : Int :=
  (BitVec.ofInt bits n).toInt

/-- Writes a number of a width. -/
def numberAttribute (bits : Nat) (p : Payload) : Action Writer Unit :=
  match p with
  | .number n => writeAttribute "value" (toString (signed bits n))
  | _ => throw .notANumber

/-- Writes the texts of a list. -/
def textElements (v : Value) (entries : List (Option String)) : Action Writer Unit :=
  entries.forM fun entry => element "string" <|
    attempt "value_multiple_strings" (.value v)
      (safeAttribute (some "value") (some "value_encoding") (entry.map .text))

/-- Whether the payload of a value in a step is announced as base64. -/
def announced (shape : Shape) (v : Value) : Option AttributeEncoding :=
  match shape with
  | .badString | .binary => some .base64
  | .none | .other => if 0 < v.length then some .base64 else none
  | _ => none

/-- Writes the payload of a value in a step. -/
def payload (shape : Shape) (v : Value) (p : Payload) : Action Writer Unit := do
  match shape with
  | .string =>
    attempt shape.handler (.value v)
      (safeAttribute (some "value") (some "value_encoding") (attributeData? p))
  | .strings => textElements v (textEntries p)
  | .dword => numberAttribute 32 p
  | .qword => numberAttribute 64 p
  | .badString | .binary => base64Payload (payloadBytes p) v.length
  | .none | .other => if 0 < v.length then base64Payload (payloadBytes p) v.length

/-- Writes the element of a value in a step, showing payload `p`. -/
def present (src : Source) (shape : Shape) (v : Value) (p : Payload) : Action Writer Unit := do
  let type ← ask (valueType shape v) id
  valueStart v type (announced shape v)
  payload shape v p
  valueEnd src v

/-- Writes the element of a value in the step for its shape. -/
def value (src : Source) (v : Value) : Action Writer Unit := do
  let (shape, p) ← ask v.presentation id
  present src shape v p

end Report

end HiveDump
