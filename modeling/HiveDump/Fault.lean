import HiveDump.Hive.Item

/-!
# Faults

Everything that can go wrong, one constructor per cause. A fault's wording is in `Fault.message`
alone, its class in `Fault.kind`, the cell it is about in `Fault.handle?`, and the fault it was
raised from in `Fault.origin?`.

* `RecordFault`: a number or record of a hive image could not be read.
* `WriteFault`: a call to the document writer was refused.
* `Fault`: either of these, or a failure of the hive, the walk, the report or the configuration.

Three classes matter to the program itself. A `malformed` entry may be skipped by a walk; a
`provenance`, `invalidHandle` or `missingInput` fault may be survived by a report
(`Fault.isRecoverable`); every other fault ends a conversion.
-/

namespace HiveDump

/-! ## Reading an image -/

/-- The records that are recognised by the two letters they start with. -/
inductive RecordKind
  | node
  | value
  | leafList
  | hashList
  deriving DecidableEq, Repr

/-- The letters of a kind of record in messages. -/
def RecordKind.letters : RecordKind → String
  | node => "NK"
  | value => "VK"
  | leafList => "LF"
  | hashList => "LH"

/-- Why a record of an image could not be read. -/
inductive RecordFault
  /-- Bytes that end behind the end of the image. -/
  | pastEnd (offset : Int) (width size : Nat)
  /-- Bytes that start in front of the image and end in it. -/
  | acrossStart (offset : Int) (width : Nat)
  /-- An offset further in front of the image than the image is long. -/
  | beforeStart (offset : Int) (size : Nat)
  | notAHive
  | notABin
  | notARecord (kind : RecordKind)
  /-- A subkey list that starts with other letters than the known ones. -/
  | unknownList (letters : Bytes)
  /-- A part of a subkey list that is no subkey list. -/
  | notAList (offset : Int)
  | freeCell (offset : Int)
  deriving DecidableEq, Repr

namespace RecordFault

/-- A signed number in hexadecimal, with its base in front of the sign. -/
def hexadecimal (n : Int) : String :=
  let digits := String.ofList (Nat.toDigits 16 n.natAbs)
  if n < 0 then s!"0x-{digits}" else s!"0x{digits}"

/-- The complaint inside a message about the structure of a hive. -/
def complaint : RecordFault → String
  | notAHive => "Invalid REGF ID"
  | notABin => "Invalid HBIN ID"
  | notARecord kind => s!"Invalid {kind.letters} Record ID"
  | unknownList letters =>
    let digits := String.ofList (letters.flatMap fun b => Quoted.hex 2 b.toNat)
    s!"Subkey list with type 0x{digits} encountered, but not yet supported."
  | notAList offset => s!"unsupported subkey list at {offset}"
  | freeCell offset => s!"HBINCell is free at {hexadecimal offset}"
  | _ => ""

/-- The wording of a record fault. -/
def message : RecordFault → String
  | pastEnd offset width size =>
    let needed := offset + width
    s!"unpack_from requires a buffer of at least {needed} bytes for unpacking {width} bytes " ++
      s!"at offset {offset} (actual buffer size is {size})"
  | acrossStart offset width => s!"not enough data to unpack {width} bytes at offset {offset}"
  | beforeStart offset size => s!"offset {offset} out of range for {size}-byte buffer"
  | freeCell offset =>
    s!"Registry Structure Does Not Exist Exception: {(freeCell offset).complaint}"
  | fault => s!"Registry Parse Exception ({fault.complaint})"

end RecordFault

/-! ## Writing a document -/

/-- Calls that the state of the document does not allow. -/
inductive Misuse
  | alreadyStarted
  | notStarted (call : String)
  | attributeOpen (call : String)
  | attributeAlreadyOpen
  | noAttribute (call : String)
  | noElement
  | noStartTag (call : String)
  | duplicateAttribute (name : String)
  | textOutsideRoot
  deriving DecidableEq, Repr

/-- The wording of a misuse: the call, and what is wrong with it. -/
def Misuse.message : Misuse → String
  | alreadyStarted => "start_document: document already started"
  | notStarted call => s!"{call}: document not started"
  | attributeOpen call => s!"{call}: attribute still open"
  | attributeAlreadyOpen => "start_attribute: attribute already open"
  | noAttribute call => s!"{call}: no open attribute"
  | noElement => "end_element: no open element"
  | noStartTag call => s!"{call}: no start tag open for attributes"
  | duplicateAttribute name => s!"write_attribute: duplicate attribute {Quoted.text name}"
  | textOutsideRoot => "write_string: text outside the root element"

/-- Why markup could not be written. -/
inductive MarkupFault
  | illegalCharacter
  | emptyName
  | secondRoot
  | noContent
  /-- The device took nothing more. -/
  | deviceFull
  /-- The device failed in an earlier call. -/
  | deviceFailed
  /-- The encoding has no characters of markup. -/
  | unencodable
  deriving DecidableEq, Repr

/-- The wording of a markup fault. -/
def MarkupFault.message : MarkupFault → String
  | illegalCharacter => "All strings must be XML compatible: Unicode or ASCII, " ++
      "no NULL bytes or control characters"
  | emptyName => "Empty tag name"
  | secondRoot => "cannot append trailing element to complete XML document"
  | noContent => "no content written"
  | deviceFull => "[Errno 28] No space left on device"
  | deviceFailed => "IO_WRITE"
  | unencodable => "ERR_INTERNAL_ERROR"

/-- Why a call to the document writer failed. -/
inductive WriteFault
  | misuse (m : Misuse)
  | refused (call : String) (reason : MarkupFault)
  | unknownEncoding (label : String)
  deriving DecidableEq, Repr

/-- The wording of a write fault. -/
def WriteFault.message : WriteFault → String
  | misuse m => s!"{m.message}: failed to write XML document"
  | refused call reason => s!"{call}: failed to write XML document ({reason.message})"
  | unknownEncoding label => s!"unknown encoding: '{label}'"

/-! ## All faults -/

/-- The classes of faults, by which callers tell them apart. -/
inductive FaultKind
  | general
  | hive
  | opening
  | closing
  | malformed
  | aborted
  | provenance
  | invalidHandle
  | writing
  | missingInput
  | invariant
  | badValue
  | badType
  | badAttribute
  | badName
  | badKey
  | badIndex
  | system
  | shortRead
  | undecodable
  | unencodable
  | badStructure
  | missingStructure
  | markup
  | serialisation
  deriving DecidableEq, Repr

/-- The classes of the program's own faults; it reports no others to its user. -/
def FaultKind.isOwn : FaultKind → Bool
  | general | hive | opening | closing | malformed | aborted | provenance | invalidHandle
  | writing | missingInput | invariant => true
  | _ => false

/-- The two lists of entries that a node has. -/
inductive EntryList
  | subkeys
  | values
  deriving DecidableEq, Repr

/-- An entry of a list in messages. -/
def EntryList.entry : EntryList → String
  | subkeys => "subkey"
  | values => "value"

/-- Numbers of fixed width among the kinds of value. -/
inductive NumberWidth
  | dword
  | qword
  deriving DecidableEq, Repr

/-- A width in messages. -/
def NumberWidth.name : NumberWidth → String
  | dword => "dword"
  | qword => "qword"

/-- Why a hive could not be opened. -/
inductive OpenReason
  /-- What the system says about the file. -/
  | file (text : String)
  | emptyFile
  | notAHive (fault : RecordFault)
  /-- A reason given by the caller. -/
  | given (text : String)
  deriving DecidableEq, Repr

/-- The wording of a reason. -/
def OpenReason.message : OpenReason → String
  | file text => text
  | emptyFile => "cannot map file (cannot mmap an empty file)"
  | notAHive fault => s!"not a registry hive ({fault.message})"
  | given text => text

/-- What went wrong. -/
inductive Fault
  -- the hive as a whole
  | unopenable (path : String) (reason : OpenReason)
  /-- A path with a zero character, which no file can have. -/
  | zeroInPath
  | unclosable
  -- malformed entries
  | badEntry (list : EntryList) (offset : Int) (fault : RecordFault)
  | badList (list : EntryList) (node : Int) (fault : RecordFault)
  | unreadableList (node : Int)
  | listTooDeep (list : Int)
  | listLoop (list target : Int)
  | truncatedPayload (record : Int)
  | wrongLength (width : NumberWidth) (handle : Int) (length : Nat)
  | revisited (child node : Int)
  -- questions about a handle
  | noRecord (kind : RecordKind) (handle : Int) (fault : Option RecordFault)
  | noSuchKey (handle : Int)
  | unknownNode (handle : Int)
  | unknownValue (handle : Int)
  | lostDataCell (value : Int)
  | unreadableDataCell (value : Int) (fault : RecordFault)
  | unlocatedDataCell (value : Int) (origin : Fault)
  | notANode (handle : Int) (origin : Fault)
  | notAValue (handle : Int) (origin : Fault)
  -- a walk that was stopped
  | aborted (operation : String) (node : Int) (origin : Fault)
  | thresholdExceeded (limit : Int) (origin : Fault)
  -- the report
  | missingAttributeName (name : Option String)
  | missingAttributeData (name : Option String)
  | misrouted (handler : String) (kind : Kind) (decoded : Bool)
  | notStrings (value : String)
  | notANumber
  | notASCII
  -- parts of the program
  | record (fault : RecordFault)
  | write (fault : WriteFault)
  | markup (fault : MarkupFault)
  -- the configuration
  | invalidConfiguration (complaints : List String)
  | unknownOption (name : String)
  | unexpectedOption (function name : String)
  /-- An option with the name of an argument that is given in any case. -/
  | repeatedOption (function name : String)
  /-- A value of this type where only a class can stand. -/
  | notAClass (typeName : String)
  /-- A value of this type where only a dictionary can stand. -/
  | notADictionary (typeName : String)
  /-- An option with the name of a part that takes no value. -/
  | readOnlyPart (name : String)
  /-- A check whose place a value of this type has taken. -/
  | uncheckable (typeName : String)
  | zeroInLabel
  /-- The label of the encoding that no text has. -/
  | voidLabel (label : String)
  /-- A fault of which only class, wording and handle are known. -/
  | reported (kind : FaultKind) (message : String) (handle : Option Int)
  deriving DecidableEq, Repr

namespace RecordFault

/-- The class of a record fault. -/
def kind : RecordFault → FaultKind
  | pastEnd .. | acrossStart .. | beforeStart .. => .shortRead
  | freeCell _ => .missingStructure
  | _ => .badStructure

end RecordFault

/-- The class of a markup fault. -/
def MarkupFault.kind : MarkupFault → FaultKind
  | illegalCharacter | emptyName => .badValue
  | secondRoot | noContent => .markup
  | deviceFull => .system
  | deviceFailed | unencodable => .serialisation

namespace Fault

/-- The wording of a fault. -/
def message : Fault → String
  | unopenable path reason => s!"{path}: {reason.message}"
  | zeroInPath => "embedded null byte"
  | unclosable => "close failed"
  | badEntry list offset fault => s!"bad {list.entry} at offset {offset}: {fault.message}"
  | badList list node fault => s!"bad {list.entry} list of node {node}: {fault.message}"
  | unreadableList node => s!"bad subkey list of node {node}"
  | listTooDeep list => s!"ri list at offset {list} nests deeper than 4"
  | listLoop list target => s!"ri list at offset {list} refers back to list at offset {target}"
  | truncatedPayload offset => s!"data cell of value at offset {offset} is truncated"
  | wrongLength width handle length =>
    s!"{width.name} value at offset {handle} has length {length}"
  | revisited child node => s!"subkey {child} of node {node} was already visited"
  | noRecord kind handle fault =>
    let text := s!"no {kind.letters.toLower} record at {handle}"
    match fault with
    | some f => s!"{text} ({f.message})"
    | none => text
  | noSuchKey handle => s!"{handle}"
  | unknownNode handle => s!"{handle} is not a node"
  | unknownValue handle => s!"{handle} is not a value"
  | lostDataCell value => s!"data cell of value {value} is missing"
  | unreadableDataCell value fault =>
    s!"cannot read data cell of value {value}: {fault.message}"
  | unlocatedDataCell value origin =>
    s!"value_byte_runs: cannot locate data cell of value {value}: {origin.message}"
  | notANode handle origin =>
    s!"node_byte_runs: invoked on what does not seem to be a node ({handle}): {origin.message}"
  | notAValue handle origin =>
    s!"value_byte_runs: invoked on what does not seem to be a value ({handle}): {origin.message}"
  | aborted operation node origin => s!"{operation} on node {node}: {origin.message}"
  | thresholdExceeded limit _ => s!"Error threshold exceeded ({limit} errors)"
  | missingAttributeName name =>
    s!"cannot write attribute {Quoted.optional name}: attribute name missing"
  | missingAttributeData name => s!"cannot write attribute {Quoted.optional name}: data missing"
  | misrouted handler kind decoded =>
    let state := if decoded then "decoded" else "undecodable"
    s!"{handler}: internal error, {state} value of type {kind.describe} " ++
      "routed to the wrong handler"
  | notStrings value => s!"{value} is not a decoded multi-string value"
  | notANumber => "payload is not a number"
  | notASCII => "payload is not ASCII text"
  | record fault => fault.message
  | write fault => fault.message
  | markup fault => fault.message
  | invalidConfiguration complaints =>
    "invalid configuration: " ++ String.intercalate "; " complaints
  | unknownOption name => s!"Unknown configuration option: {name}"
  | unexpectedOption function name =>
    s!"{function}() got an unexpected keyword argument '{name}'"
  | repeatedOption function name =>
    s!"{function}() got multiple values for argument '{name}'"
  | notAClass typeName => s!"__class__ must be set to a class, not '{typeName}' object"
  | notADictionary typeName => s!"__dict__ must be set to a dictionary, not a '{typeName}'"
  | readOnlyPart name => s!"attribute '{name}' of 'VisitConfig' objects is not writable"
  | uncheckable typeName => s!"'{typeName}' object is not callable"
  | zeroInLabel => "embedded null character"
  | voidLabel label =>
    s!"encoding with '{label}' codec failed (UnicodeError: undefined encoding)"
  | reported _ message _ => message

/-- The class of a fault. -/
def kind : Fault → FaultKind
  | unopenable .. => .opening
  | unclosable => .closing
  | badEntry .. | badList .. | unreadableList _ | listTooDeep _ | listLoop .. | truncatedPayload _
  | wrongLength .. | revisited .. => .malformed
  | noRecord .. | unknownNode _ | unknownValue _ | notANode .. | notAValue .. => .invalidHandle
  | lostDataCell _ | unreadableDataCell .. | unlocatedDataCell .. => .provenance
  | noSuchKey _ => .badKey
  | aborted .. | thresholdExceeded .. => .aborted
  | missingAttributeName _ | missingAttributeData _ => .missingInput
  | misrouted .. => .invariant
  | notStrings _ | notANumber | unknownOption _ | unexpectedOption .. | repeatedOption ..
  | notAClass _ | notADictionary _ | uncheckable _ => .badType
  | readOnlyPart _ => .badAttribute
  | notASCII => .undecodable
  | voidLabel _ => .unencodable
  | record fault => fault.kind
  | write (.unknownEncoding _) => .badName
  | write _ => .writing
  | markup fault => fault.kind
  | invalidConfiguration _ | zeroInPath | zeroInLabel => .badValue
  | reported kind _ _ => kind

/-- The cell that a fault of the hive names. -/
def handle? : Fault → Option Int
  | badEntry _ offset _ => some offset
  | badList _ node _ | unreadableList node => some node
  | listTooDeep list | listLoop list _ => some list
  | truncatedPayload offset => some (offset - 4)
  | wrongLength _ handle _ => some handle
  | revisited child _ => some child
  | noRecord _ handle _ | unknownNode handle | unknownValue handle => some handle
  | notANode handle _ | notAValue handle _ => some handle
  | lostDataCell value | unreadableDataCell value _ | unlocatedDataCell value _ => some value
  | reported _ _ handle => handle
  | _ => none

/-- The fault that a fault was raised from. -/
def origin? : Fault → Option Fault
  | unopenable _ (.notAHive fault) => some (record fault)
  | unopenable path (.file text) => some (reported .system s!"{path}: {text}" none)
  | unopenable _ .emptyFile => some (reported .badValue "cannot mmap an empty file" none)
  | badEntry _ _ fault | badList _ _ fault | unreadableDataCell _ fault => some (record fault)
  | noRecord _ _ fault => fault.map record
  | unlocatedDataCell _ origin | notANode _ origin | notAValue _ origin => some origin
  | aborted _ _ origin | thresholdExceeded _ origin => some origin
  | write (.refused _ reason) => some (markup reason)
  | _ => none

/-- Entries that a walk may skip. -/
def isMalformed (f : Fault) : Bool :=
  f.kind == .malformed

/-- Failures of a question about a handle. -/
def isProvenance (f : Fault) : Bool :=
  f.kind == .provenance || f.kind == .invalidHandle

/-- Faults that a report survives, if its policy agrees. -/
def isRecoverable (f : Fault) : Bool :=
  f.kind == .missingInput || f.isProvenance

end Fault

end HiveDump
