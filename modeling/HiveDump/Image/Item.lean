import HiveDump.Failing
import HiveDump.Image.Payload
import HiveDump.Text.Utf16

/-!
# Node and value records

The records of an image as nodes and values. A name is stored in one byte a character if its record
says so, and in UTF-16 otherwise. A payload is decoded as its kind asks for: text that does not
decode leaves the value undecoded, a number of the wrong length makes the entry malformed.
-/

namespace HiveDump

/-- A stored name, in one byte a character or in UTF-16. -/
def decodeStoredName (oneByte : Bool) (stored : Bytes) : Option String :=
  if oneByte then some (String.ofList (stored.map fun b => Char.ofNat b.toNat))
  else Utf16.decodeName? stored

/-- The content of a payload, missing if it is text that does not decode. -/
def decodePayload (handle : Int) (kind : Kind) (raw : Bytes) : Except Fault (Option Payload) :=
  let number (width : NumberWidth) (size : Nat) (read : Bytes → Nat) :=
    if raw.length = size then .ok (some (.number (read raw)))
    else .error (.wrongLength width handle raw.length)
  match kind with
  | .strings => .ok ((Utf16.decodeStrings? raw).map fun ss => .texts (ss.map some))
  | .string | .expandString | .link => .ok ((Utf16.decodeString? raw).map .text)
  | .dword => number .dword 4 Bytes.littleEndian
  | .dwordBigEndian => number .dword 4 Bytes.bigEndian
  | .qword => number .qword 8 Bytes.littleEndian
  | _ => .ok (some (.bytes raw))

namespace Image

/-- The flag of a node record whose name takes one byte a character. -/
def nodeOneByteFlag : Nat := 0x20

/-- The flag of a value record whose name takes one byte a character. -/
def valueOneByteFlag : Nat := 0x1

/-- The node of the record at an offset. -/
def nodeAt (im : Image) (record : Int) : Except RecordFault Node := do
  let nameLength ← im.word (record + 0x48)
  let stored := im.slice (record + 0x4C) (record + 0x4C + nameLength)
  let flags ← im.word (record + 2)
  let oneByte := flags &&& nodeOneByteFlag ≠ 0
  return { handle := record - cellHeaderSize, name := decodeStoredName oneByte stored,
           storedName := stored }

/-- The node in the cell at an offset. -/
def node (im : Image) (cell : Int) : Except RecordFault Node := do
  im.nodeAt (← im.record .node cell)

theorem node_eq_ok {im : Image} {cell : Int} {n : Node} :
    im.node cell = .ok n ↔ ∃ c, im.cell cell = .ok c ∧ im.checkRecord .node c.content = .ok () ∧
      im.nodeAt c.content = .ok n := by
  simp only [node, record, Failing.bind_eq_ok]
  constructor
  · rintro ⟨_, ⟨c, hc, _, hk, hr⟩, hn⟩
    cases hr
    exact ⟨c, hc, hk, hn⟩
  · rintro ⟨c, hc, hk, hn⟩
    exact ⟨c.content, ⟨c, hc, (), hk, rfl⟩, hn⟩

theorem handle_of_nodeAt {im : Image} {record : Int} {n : Node} (h : im.nodeAt record = .ok n) :
    n.handle = record - cellHeaderSize := by
  obtain ⟨nameLength, -, h⟩ := Failing.bind_eq_ok.mp h
  obtain ⟨flags, -, h⟩ := Failing.bind_eq_ok.mp h
  cases h
  rfl

/-- A node that could be read lies in the cell it was read from. -/
theorem handle_of_node {im : Image} {cell : Int} {n : Node} (h : im.node cell = .ok n) :
    n.handle = cell := by
  obtain ⟨c, hc, -, hn⟩ := node_eq_ok.mp h
  obtain ⟨stored, -, rfl⟩ := cell_eq_ok.mp hc
  rw [handle_of_nodeAt hn]
  simp [Cell.content]

theorem readable_of_node {im : Image} {cell : Int} {n : Node} (h : im.node cell = .ok n) :
    im.Readable cell 4 := by
  obtain ⟨c, hc, -⟩ := node_eq_ok.mp h
  obtain ⟨stored, hs, -⟩ := cell_eq_ok.mp hc
  exact readable_of_number hs

/-- Handle, stored name and key, kind: the fields of a value record but its payload. -/
def valueHead (im : Image) (record : Int) : Except RecordFault (Bytes × Option String × Kind) := do
  let nameLength ← im.word (record + 2)
  let stored := im.slice (record + 0x14) (record + 0x14 + nameLength)
  let flags ← im.word (record + 0x10)
  let oneByte := flags &&& valueOneByteFlag ≠ 0
  let kind ← im.dword (record + 0xC)
  return (stored, decodeStoredName oneByte stored, Kind.ofId kind)

/-- The value in the cell at an offset. -/
def value (im : Image) (cell : Int) : Except Fault Value := do
  let record ← (im.record .value cell).mapError .record
  let handle := record - cellHeaderSize
  let (stored, key, kind) ← (im.valueHead record).mapError .record
  let raw ← im.payload record
  let data ← decodePayload handle kind raw
  return { handle := handle, key := key, storedKey := stored, kind := kind, length := raw.length,
           data := data.getD .absent, raw := raw, decoded := data.isSome }

/-! ## Questions about a handle -/

/-- The record of a kind in the allocated cell that a handle names. -/
def recordOfHandle (im : Image) (kind : RecordKind) (handle : Int) : Except Fault Int := do
  let found ← (do
    let c ← im.cell handle
    if c.isFree then return none
    if (← im.letters c) ≠ kind.signature then return none
    return some c.content : Except RecordFault (Option Int)).mapError
      fun fault => .noRecord kind handle (some fault)
  match found with
  | some record => return record
  | none => throw (.noRecord kind handle none)

/-- A time stamp; zero means that there is none. -/
def timestampAt (im : Image) (offset : Int) : Except RecordFault (Option Int) :=
  (im.qword offset).map fun n => if n = 0 then none else some (n : Int)

/-- The size of a node record without its name. -/
def nodeFixedSize : Nat := 0x50

/-- The size of a value record without its name. -/
def valueFixedSize : Nat := 0x18

/-- The time a node was last written. -/
def nodeTimestamp (im : Image) (n : Node) : Except Fault (Option Int) := do
  let record ← im.recordOfHandle .node n.handle
  (im.timestampAt (record + 4)).mapError .record

/-- The size of a node's record with its name. -/
def nodeLength (im : Image) (n : Node) : Except Fault Int := do
  let record ← im.recordOfHandle .node n.handle
  (im.word (record + 0x48)).mapError .record |>.map fun length => (nodeFixedSize + length : Nat)

/-- The size of a value's record with its name. -/
def valueLength (im : Image) (v : Value) : Except Fault Int := do
  let record ← im.recordOfHandle .value v.handle
  (im.word (record + 2)).mapError .record |>.map fun length => (valueFixedSize + length : Nat)

/-- Offset and length of the cell of a value's payload; both zero if it stands in the record. -/
def dataCell (im : Image) (v : Value) : Except Fault (Int × Int) := do
  let record ← im.recordOfHandle .value v.handle
  (do
    let length ← im.payloadLength record
    if length.isInline then return (0, 0)
    let offset ← im.linked (record + 8)
    return (offset, (length.bytes : Int) + 4) : Except RecordFault (Int × Int)).mapError
      fun fault => .unreadableDataCell v.handle fault

end Image

end HiveDump
