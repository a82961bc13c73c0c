import HiveDump.Image.Cell

/-!
# Payloads

A value record holds the length of its payload and either the payload itself, if the top bit of the
length is set, or the distance of the cell that holds it. A payload that is too long for one cell
is spread over segments that a further record names.
-/

namespace HiveDump

/-- The longest payload that one cell holds, and the length of every segment but the last. -/
def segmentSize : Nat := 0x3FD8

/-- The length field of a value record. -/
structure PayloadLength where
  field : Nat
  deriving DecidableEq, Repr

namespace PayloadLength

/-- Whether the payload stands in the record. -/
def isInline (l : PayloadLength) : Bool :=
  l.field / 0x80000000 % 2 == 1

/-- The length without the top bit. -/
def bytes (l : PayloadLength) : Nat :=
  l.field % 0x80000000

end PayloadLength

namespace Image

/-- The length field of the value record at an offset. -/
def payloadLength (im : Image) (record : Int) : Except RecordFault PayloadLength :=
  (im.dword (record + 4)).map fun n => ⟨n⟩

/-- The next `length` bytes of a payload in segments, from the slot that names the first of them. -/
def segments (im : Image) :
    (slot : Int) → (count length : Nat) → Except RecordFault Bytes
  | _, 0, _ => .ok []
  | slot, n + 1, length => do
    let c ← im.cell (← im.linked slot)
    let part := (im.cellBytes c).take (min segmentSize length)
    let rest ← im.segments (slot + 4) n (length - segmentSize)
    return part ++ rest

/-- A payload whose segments the record at an offset names. -/
def segmented (im : Image) (record : Int) (length : Nat) : Except RecordFault Bytes := do
  let c ← im.cell (← im.linked (record + 4))
  im.segments c.content ((length + segmentSize - 1) / segmentSize) length

/-- The letters of a record that names segments. -/
def segmentedLetters : Bytes := [0x64, 0x62]

/-- Whether a cell holds a record that names the segments of a payload of this length. -/
def holdsSegments (im : Image) (c : Cell) (length : Nat) : Except RecordFault Bool := do
  if length ≤ segmentSize then return false
  if (← im.letters c) ≠ segmentedLetters then return false
  discard <| im.child c
  return true

/-- The cell that the value record at an offset names as that of its payload. -/
def payloadCell (im : Image) (record : Int) : Except RecordFault Cell := do
  im.cell (← im.linked (record + 8))

/-- The payload of the value record at an offset. -/
def payload (im : Image) (record : Int) : Except Fault Bytes := do
  let length ← (im.payloadLength record).mapError .record
  if length.isInline then
    return im.slice (record + 8) (record + 8 + min length.bytes 4)
  let c ← (im.payloadCell record).mapError .record
  if ← (im.holdsSegments c length.bytes).mapError .record then
    (im.segmented c.content length.bytes).mapError .record
  else
    let found := (im.cellBytes c).take length.bytes
    if found.length = length.bytes then return found
    else throw (.truncatedPayload record)

end Image

end HiveDump
