import HiveDump.Fault
import HiveDump.Markup.Token
import HiveDump.Text.Base64

/-!
# Writing a document call by call

A `Writer` takes a document one call at a time. A start tag stays open for attributes until the
next element, text or end tag; only then it is written. The content of an attribute may be given in
pieces of bytes, which are written in base64 as one.

A call that the state of the document does not allow fails and changes nothing, but for one case: a
start tag that cannot be written, because of a name or value that no document may hold, is lost.

What is written goes to a device, which takes everything, or nothing, or gives out at some point.
Output is held back until there is enough of it, so a full device is noticed late; what is still
held back when the document is finished is lost without notice. Of a device that gives out, only
the point is known where that is noticed: what was held back then counts as written. In an encoding
without characters of markup nothing can be written, whatever the device.
-/

namespace HiveDump

/-- Where a document is in its life. -/
inductive Stage
  | idle
  /-- Started in an encoding that cannot be written. -/
  | unwritable
  | writing
  | finished
  deriving DecidableEq, Repr

/-- A start tag that still takes attributes. -/
structure PendingTag where
  name : String
  attributes : List Attribute := []
  deriving DecidableEq, Repr

/-- An attribute that still takes bytes. -/
structure PendingAttribute where
  name : String
  content : Bytes := []
  deriving DecidableEq, Repr

/-- What takes the output. -/
inductive Device
  | working
  /-- Takes nothing; these tokens are held back. -/
  | full (held : List Token)
  /-- Takes this many tokens more, and gives out at the next one. -/
  | lasting (tokens : Nat)
  /-- Takes nothing more, for a reason. -/
  | failed (reason : MarkupFault)
  deriving DecidableEq, Repr

/-- A document that is being written. -/
structure Writer where
  label : String
  device : Device := .working
  stage : Stage := .idle
  /-- What has been written. -/
  tokens : Array Token := #[]
  /-- The elements that are open, innermost first. -/
  openElements : List String := []
  pending : Option PendingTag := none
  openAttribute : Option PendingAttribute := none
  /-- Whether the document has its root and the root is closed. -/
  rootClosed : Bool := false
  deriving Repr

/-- A call to a writer. -/
abbrev Writing (α : Type) := ExceptT WriteFault (StateM Writer) α

namespace Writer

/-- The number of open elements, with the one whose start tag is open. -/
def depth (w : Writer) : Nat :=
  w.openElements.length + if w.pending.isSome then 1 else 0

/-- The bytes of markup in the document's encoding. -/
def encode (w : Writer) (ts : List Token) : Bytes :=
  match Charset.ofLabel? w.label with
  | some cs => Markup.encode cs ts
  | none => []

/-- The bytes written, if anything was. -/
def bytes? (w : Writer) : Option Bytes :=
  if w.tokens.isEmpty then none else some (w.encode w.tokens.toList)

/-- The bytes written. -/
def bytes (w : Writer) : Bytes :=
  w.bytes?.getD []

/-- Makes a call: its result, and the writer behind it. -/
def call {α : Type} (w : Writer) (act : Writing α) : Except WriteFault α × Writer :=
  act.run.run w

/-! ## Output -/

/-- Output is held back up to this many bytes. -/
def holdSize : Nat := 4000

/-- Fails with a misuse. -/
def misuse {α : Type} (m : Misuse) : Writing α :=
  throw (.misuse m)

/-- Fails because of what a call wants to write. -/
def refuse {α : Type} (call : String) (reason : MarkupFault) : Writing α :=
  throw (.refused call reason)

/-- Hands a token to the device, which says if it takes nothing more. -/
def emit (call : String) (t : Token) : Writing Unit := do
  match (← get).device with
  | .working => modify fun w => { w with tokens := w.tokens.push t }
  | .full held =>
    let held := held ++ [t]
    if ((← get).encode held).length < holdSize then modify fun w => { w with device := .full held }
    else
      modify fun w => { w with device := .failed .deviceFailed }
      refuse call .deviceFull
  | .lasting (n + 1) => modify fun w => { w with tokens := w.tokens.push t, device := .lasting n }
  | .lasting 0 =>
    modify fun w => { w with device := .failed .deviceFailed }
    refuse call .deviceFull
  | .failed reason => refuse call reason

/-- Hands an end tag to the device; none is written once the device has failed. -/
def emitEndTag (call name : String) : Writing Unit := do
  match (← get).device with
  | .failed _ => pure ()
  | .working | .full _ | .lasting _ => emit call (.endTag name)

/-! ## Start tags -/

/-- What keeps a name or value out of a document. -/
def textFault? (s : String) : Option MarkupFault :=
  if Markup.legal s then none else some .illegalCharacter

/-- What keeps a name out of a document. -/
def nameFault? (s : String) : Option MarkupFault :=
  (textFault? s).or (if s.isEmpty then some .emptyName else none)

/-- What keeps a start tag out of a document: its attributes are looked at first. -/
def tagFault? (tag : PendingTag) : Option MarkupFault :=
  (tag.attributes.findSome? fun a => (nameFault? a.name).or (textFault? a.value)).or
    (nameFault? tag.name)

/-- Writes the start tag that is open, if one is. -/
def flush (call : String) : Writing Unit := do
  let w ← get
  match w.pending with
  | none => pure ()
  | some tag =>
    if w.openAttribute.isSome then misuse (.attributeOpen "flush")
    set { w with pending := none }
    match tagFault? tag with
    | some reason => refuse call reason
    | none => pure ()
    if w.rootClosed then refuse call .secondRoot
    emit call (.startTag tag.name tag.attributes)
    modify fun w => { w with openElements := tag.name :: w.openElements }

/-- Fails unless the document can be written to. -/
def requireDocument (call : String) : Writing Unit := do
  if (← get).stage ≠ .writing then misuse (.notStarted call)

/-- The start tag that takes attributes. -/
def requireTag (call : String) : Writing PendingTag := do
  match (← get).pending with
  | some tag => pure tag
  | none => misuse (.noStartTag call)

/-! ## Calls -/

/-- Starts the document with its declaration. -/
def startDocument : Writing Unit := do
  let w ← get
  if w.stage ≠ .idle then misuse .alreadyStarted
  if !Markup.legal w.label then refuse "start_document" .illegalCharacter
  match Charset.ofLabel? w.label with
  | none =>
    set { w with stage := .unwritable }
    throw (.unknownEncoding w.label)
  | some cs =>
    let device := if cs.writesMarkup then w.device else .failed .unencodable
    set { w with stage := .writing, rootClosed := false, device := device }
    emit "start_document" (.declaration w.label)

/-- Opens an element. -/
def startElement (name : String) : Writing Unit := do
  requireDocument "start_element"
  flush "start_element"
  modify fun w => { w with pending := some { name := name } }

/-- Closes the innermost open element. -/
def endElement : Writing Unit := do
  requireDocument "end_element"
  if (← get).openAttribute.isSome then misuse (.attributeOpen "end_element")
  flush "end_element"
  let w ← get
  match w.openElements with
  | [] => misuse .noElement
  | name :: rest =>
    set { w with openElements := rest, rootClosed := rest.isEmpty }
    emitEndTag "end_element" name

/-- Closes `n` elements. -/
def endElements : (n : Nat) → Writing Unit
  | 0 => pure ()
  | n + 1 => do
    endElement
    endElements n

/-- Closes every open element and finishes the document. -/
def endDocument : Writing Unit := do
  requireDocument "end_document"
  endElements (← get).depth
  modify fun w => { w with stage := .finished }
  let w ← get
  if !w.rootClosed then refuse "end_document" .noContent
  match w.device with
  | .failed reason => refuse "end_document" reason
  | .working | .full _ | .lasting _ => pure ()

/-- Adds an attribute to the open start tag. -/
def writeAttribute (name value : String) : Writing Unit := do
  let tag ← requireTag "write_attribute"
  if tag.attributes.any fun a => a.name == name then misuse (.duplicateAttribute name)
  let tag := { tag with attributes := tag.attributes ++ [⟨name, value⟩] }
  modify fun w => { w with pending := some tag }

/-- Begins an attribute whose content comes in pieces. -/
def startAttribute (name : String) : Writing Unit := do
  discard <| requireTag "start_attribute"
  if (← get).openAttribute.isSome then misuse .attributeAlreadyOpen
  modify fun w => { w with openAttribute := some { name := name } }

/-- Adds to the open attribute the piece of `data` that starts at `start` and has this length, or
reaches to the end. -/
def writeBase64 (data : Bytes) (start : Int := 0) (length : Option Int := none) :
    Writing Unit := do
  match (← get).openAttribute with
  | none => misuse (.noAttribute "write_base64")
  | some a =>
    let stop := match length with
      | some n => start + n
      | none => (data.length : Int)
    let a := { a with content := a.content ++ data.slice start stop }
    modify fun w => { w with openAttribute := some a }

/-- Ends the open attribute and adds it to the start tag. -/
def endAttribute : Writing Unit := do
  match (← get).openAttribute with
  | none => misuse (.noAttribute "end_attribute")
  | some a =>
    modify fun w => { w with openAttribute := none }
    writeAttribute a.name (Base64.text a.content)

/-- Writes text into the innermost element. -/
def writeText (text : String) : Writing Unit := do
  requireDocument "write_string"
  flush "write_string"
  if (← get).openElements.isEmpty then misuse .textOutsideRoot
  match textFault? text with
  | some reason => refuse "write_string" reason
  | none => pure ()
  if !text.isEmpty then emit "write_string" (.text text)

/-- Lets go of a document; one that is not finished stays as it is, and another can be started. -/
def release : Writing Unit := do
  let w ← get
  let device := match w.device with
    | .working | .failed .unencodable => Device.working
    | .lasting n => .lasting n
    | .full _ | .failed _ => .full []
  match w.stage with
  | .writing | .unwritable =>
    set { w with
      stage := .idle, openElements := [], pending := none, openAttribute := none, device := device }
  | .idle | .finished => pure ()

end Writer

end HiveDump
