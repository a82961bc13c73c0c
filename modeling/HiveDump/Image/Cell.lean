import HiveDump.Image.Basic

/-!
# Cells and records

Behind its header an image is divided into bins, and a bin into cells. A cell starts with its size,
which is positive while the cell is free; what it holds, a record, starts behind the size. Records
name other cells by their distance from the first bin.

Most records start with two letters. `Image.record` reads a record of a given kind and checks the
letters; `Image.child` finds out from the letters what an allocated cell holds.
-/

namespace HiveDump

/-- The bytes of the size in front of a cell's content. -/
def cellHeaderSize : Nat := 4

/-- A cell of an image. -/
structure Cell where
  offset : Int
  /-- The size as it is stored, positive for a free cell. -/
  stored : Int
  deriving DecidableEq, Repr

namespace Cell

/-- Where the content of a cell starts. -/
def content (c : Cell) : Int :=
  c.offset + cellHeaderSize

/-- Whether the cell is not in use. -/
def isFree (c : Cell) : Bool :=
  0 < c.stored

end Cell

/-- The two letters of a record. -/
def RecordKind.signature : RecordKind → Bytes
  | node => [0x6E, 0x6B]
  | value => [0x76, 0x6B]
  | leafList => [0x6C, 0x66]
  | hashList => [0x6C, 0x68]

/-- What the letters of a cell say about its content. -/
inductive Content
  | record (kind : RecordKind)
  | indexList
  | listOfLists
  | security
  | segmented
  | unmarked
  deriving DecidableEq, Repr

/-- What the letters of a cell say about its content. -/
def Content.ofLetters (letters : Bytes) : Content :=
  if letters = RecordKind.value.signature then .record .value
  else if letters = RecordKind.node.signature then .record .node
  else if letters = RecordKind.leafList.signature then .record .leafList
  else if letters = RecordKind.hashList.signature then .record .hashList
  else if letters = [0x6C, 0x69] then .indexList
  else if letters = [0x72, 0x69] then .listOfLists
  else if letters = [0x73, 0x6B] then .security
  else if letters = [0x64, 0x62] then .segmented
  else .unmarked

namespace Image

/-! ## Cells -/

/-- The cell at an offset. -/
def cell (im : Image) (offset : Int) : Except RecordFault Cell :=
  (im.signedDword offset).map fun stored => ⟨offset, stored⟩

theorem cell_eq_ok {im : Image} {offset : Int} {c : Cell} :
    im.cell offset = .ok c ↔
      ∃ n : Nat, im.dword offset = .ok n ∧ c = ⟨offset, (n : Int).bmod 0x100000000⟩ := by
  unfold cell signedDword
  cases im.dword offset <;> simp [Functor.map, Except.map, eq_comm]

/-- The letters that the content of a cell starts with. -/
def letters (im : Image) (c : Cell) : Except RecordFault Bytes :=
  im.read c.content 2

/-- The bytes that a cell of this size covers from its content on. -/
def cellBytes (im : Image) (c : Cell) : Bytes :=
  im.slice c.content (c.content + c.stored.natAbs)

/-! ## Bins -/

/-- The offset of the first bin as the header names it. -/
def binStart : Int := 0x1000

/-- The number that the letters of a bin spell. -/
def binSignature : Nat := 0x6E696268

/-- Checks that a bin starts at an offset. -/
def checkBin (im : Image) (offset : Int) : Except RecordFault Unit := do
  if (← im.dword offset) ≠ binSignature then throw .notABin
  discard <| im.dword (offset + 8)

/-- The offset that distances are counted from. -/
def origin (im : Image) : Except RecordFault Int := do
  let distance ← im.dword (binStart + 4)
  let offset := binStart - distance
  im.checkBin offset
  return offset

/-- The offset of a cell that the number at `field` names by its distance. -/
def linked (im : Image) (field : Int) : Except RecordFault Int := do
  let distance ← im.dword field
  return (← im.origin) + distance

/-! ## Records -/

/-- Checks that a record of a kind starts at an offset. -/
def checkRecord (im : Image) (kind : RecordKind) (offset : Int) : Except RecordFault Unit := do
  if (← im.read offset 2) ≠ kind.signature then throw (.notARecord kind)

/-- The offset of the record of a kind in the cell at an offset. -/
def record (im : Image) (kind : RecordKind) (cellOffset : Int) : Except RecordFault Int := do
  let c ← im.cell cellOffset
  im.checkRecord kind c.content
  return c.content

/-- What an allocated cell holds. -/
def child (im : Image) (c : Cell) : Except RecordFault Content := do
  if c.isFree then throw (.freeCell c.offset)
  let content := Content.ofLetters (← im.letters c)
  if content = .security then
    discard <| im.dword (c.content + 4)
    discard <| im.dword (c.content + 8)
  return content

end Image

end HiveDump
