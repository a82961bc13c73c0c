import HiveDump.Image.Hive

/-!
# Laying out images

`Layout.image` writes a tree of keys as an image that `HiveFile.ofImage` opens. One bin holds one
cell after the other, each with its size in front and filled up to a multiple of eight bytes; a
record stands behind the records that it names.

* A payload of up to four bytes stands in its value record, one of up to `segmentSize` bytes in a
  cell of its own, and a longer one in segments of that size.
* The subkeys of a key stand in a list of one of three kinds, or in lists that a list of lists
  names.

A tree carries a label at each of its cells: nothing in a tree that is to be laid out, and the
cell's distance from the bin in one that has been. Every number has to fit its field:
`ofLittleEndian` drops what does not.
-/

namespace HiveDump.Layout

/-! ## What is laid out -/

/-- A name: text in one byte a character, or the bytes of its UTF-16. -/
inductive StoredName
  | oneByte (text : String)
  | wide (bytes : Bytes)
  deriving DecidableEq, Repr

namespace StoredName

/-- The bytes of a name. -/
def bytes : StoredName → Bytes
  | oneByte text => text.toList.map fun c => UInt8.ofNat c.toNat
  | wide bytes => bytes

/-- Whether the name takes one byte a character. -/
def isOneByte : StoredName → Bool
  | oneByte _ => true
  | wide _ => false

/-- The text of a name; bytes that are not UTF-16 have none. -/
def text? : StoredName → Option String
  | oneByte text => some text
  | wide bytes => Utf16.decodeName? bytes

end StoredName

/-- A value to be laid out. -/
structure ValueDraft where
  name : StoredName
  typeId : Nat
  payload : Bytes
  deriving DecidableEq, Repr

/-- A key to be laid out, without its lists. -/
structure KeyHead where
  name : StoredName
  timestamp : Nat := 0
  isRoot : Bool := false
  deriving DecidableEq, Repr

/-- The kinds of list that name keys. -/
inductive KeyListKind
  | leaf
  | hash
  | index
  deriving DecidableEq, Repr

mutual

/-- A key with its values and everything below it. -/
inductive Key (α : Type)
  | key (cell : α) (head : KeyHead) (values : List (α × ValueDraft))
    (subkeys : Option (KeyList α))

/-- A list that names keys, directly or through other lists. -/
inductive KeyList (α : Type)
  | keys (cell : α) (kind : KeyListKind) (keys : List (Key α))
  | lists (cell : α) (lists : List (KeyList α))

end

variable {α : Type}

/-- The label of a key's cell. -/
def Key.cell : Key α → α
  | .key cell _ _ _ => cell

/-- The label of a list's cell. -/
def KeyList.cell : KeyList α → α
  | .keys cell _ _ => cell
  | .lists cell _ => cell

mutual

/-- The keys that a list names, in order. -/
def KeyList.named : KeyList α → List (Key α)
  | .keys _ _ keys => keys
  | .lists _ lists => namedAll lists

/-- The keys that lists name together. -/
def namedAll : List (KeyList α) → List (Key α)
  | [] => []
  | list :: lists => list.named ++ namedAll lists

end

/-- The keys that a key's list names, if it has one. -/
def subkeysOf : Option (KeyList α) → List (Key α)
  | none => []
  | some list => list.named

/-! ## Cells -/

/-- The bytes of a bin in front of its first cell. -/
def binHeaderSize : Nat := 0x20

/-- What stands for the distance of a cell that there is none of. -/
def noCell : Nat := 0xFFFFFFFF

/-- A number of two bytes. -/
def word (n : Nat) : Bytes :=
  Bytes.ofLittleEndian 2 n

/-- A number of four bytes. -/
def dword (n : Nat) : Bytes :=
  Bytes.ofLittleEndian 4 n

/-- Bytes that are all zero. -/
def zeros (n : Nat) : Bytes :=
  List.replicate n 0

/-- The size of a cell with this much content. -/
def cellSize (content : Nat) : Nat :=
  (content + cellHeaderSize + 7) / 8 * 8

/-- An allocated cell. -/
def cellBytes (content : Bytes) : Bytes :=
  let size := cellSize content.length
  dword (0x100000000 - size) ++ content ++ zeros (size - cellHeaderSize - content.length)

/-- Laying out cells, with the cells so far as its state. -/
abbrev Drawing := StateM Bytes

/-- Adds a cell and gives its distance from the bin. -/
def cell (content : Bytes) : Drawing Nat := do
  let cells ← get
  set (cells ++ cellBytes content)
  return binHeaderSize + cells.length

/-! ## Values -/

/-- Bytes in pieces of `size`, the last of which may be shorter; as many as `budget` at most. -/
def piecesOf (size : Nat) : (budget : Nat) → Bytes → List Bytes
  | 0, _ => []
  | budget + 1, b => if b.isEmpty then [] else b.take size :: piecesOf size budget (b.drop size)

/-- The segments of a long payload. -/
def segmentsOf (b : Bytes) : List Bytes :=
  piecesOf segmentSize b.length b

/-- The record that names the cell with the slots of the segments. -/
def segmentsRecord (count slots : Nat) : Bytes :=
  Image.segmentedLetters ++ word count ++ dword slots

/-- Lays out cells side by side. -/
def drawCells : List Bytes → Drawing (List Nat)
  | [] => pure []
  | content :: contents => do
    let distance ← cell content
    return distance :: (← drawCells contents)

/-- Lays out a payload; gives the two fields of its value record, length and distance. -/
def drawPayload (b : Bytes) : Drawing (Nat × Nat) := do
  if b.length ≤ 4 then return (0x80000000 + b.length, Bytes.littleEndian b)
  else if b.length ≤ segmentSize then return (b.length, ← cell b)
  else
    let segments ← drawCells (segmentsOf b)
    let slots ← cell (segments.flatMap dword)
    let record ← cell (segmentsRecord segments.length slots)
    return (b.length, record)

/-- The record of a value with the two fields of its payload. -/
def valueRecord (v : ValueDraft) (length distance : Nat) : Bytes :=
  let flags := if v.name.isOneByte then Image.valueOneByteFlag else 0
  RecordKind.value.signature ++ word v.name.bytes.length ++ dword length ++
    dword distance ++ dword v.typeId ++ word flags ++ word 0 ++ v.name.bytes

/-- Lays out a value. -/
def ValueDraft.draw (v : ValueDraft) : Drawing Nat := do
  let (length, distance) ← drawPayload v.payload
  cell (valueRecord v length distance)

/-- Lays out values side by side. -/
def drawValues : List (α × ValueDraft) → Drawing (List (Nat × ValueDraft))
  | [] => pure []
  | (_, v) :: values => do
    let distance ← v.draw
    return (distance, v) :: (← drawValues values)

/-! ## Keys -/

/-- The letters of a kind of list. -/
def KeyListKind.letters : KeyListKind → Bytes
  | leaf => RecordKind.leafList.signature
  | hash => RecordKind.hashList.signature
  | index => [0x6C, 0x69]

/-- The slot of a key in a kind of list. -/
def KeyListKind.slot (kind : KeyListKind) (distance : Nat) : Bytes :=
  match kind with
  | leaf | hash => dword distance ++ dword 0
  | index => dword distance

/-- The record of a list of a kind that names these cells. -/
def KeyListKind.record (kind : KeyListKind) (distances : List Nat) : Bytes :=
  kind.letters ++ word distances.length ++ distances.flatMap kind.slot

/-- The letters of a list of lists. -/
def listLetters : Bytes := [0x72, 0x69]

/-- The record of a list of lists that names these cells. -/
def listsRecord (distances : List Nat) : Bytes :=
  listLetters ++ word distances.length ++ distances.flatMap dword

/-- The flag of the record of a root. -/
def rootFlag : Nat := 0x4

/-- The flags of a key. -/
def KeyHead.flags (head : KeyHead) : Nat :=
  (if head.name.isOneByte then Image.nodeOneByteFlag else 0) + if head.isRoot then rootFlag else 0

/-- The record of a key. -/
def keyRecord (head : KeyHead) (subkeyCount subkeys valueCount values : Nat) : Bytes :=
  RecordKind.node.signature ++ word head.flags ++ Bytes.ofLittleEndian 8 head.timestamp ++
    dword 0 ++ dword 0 ++ dword subkeyCount ++ dword 0 ++ dword subkeys ++ dword noCell ++
    dword valueCount ++ dword values ++ dword noCell ++ dword noCell ++ zeros 20 ++
    word head.name.bytes.length ++ word 0 ++ head.name.bytes

/-- The distance of a key's list, if it has one. -/
def listDistance : Option (KeyList Nat) → Nat
  | none => noCell
  | some list => list.cell

/-- Lays out the slots of a key's values, if it has any. -/
def drawValueSlots (records : List Nat) : Drawing Nat :=
  if records.isEmpty then pure noCell else cell (records.flatMap dword)

/-- Lays out a key behind its lists. -/
def drawKey (head : KeyHead) (values : List (α × ValueDraft)) (subkeys : Option (KeyList Nat)) :
    Drawing (Key Nat) := do
  let placed ← drawValues values
  let slots ← drawValueSlots (placed.map (·.1))
  let distance ← cell (keyRecord head (subkeysOf subkeys).length (listDistance subkeys)
    placed.length slots)
  return .key distance head placed subkeys

mutual

/-- Lays out a key with everything below it. -/
def Key.draw : Key α → Drawing (Key Nat)
  | .key _ head values none => drawKey head values none
  | .key _ head values (some list) => do
    let placed ← list.draw
    drawKey head values (some placed)

/-- Lays out a list with everything it names. -/
def KeyList.draw : KeyList α → Drawing (KeyList Nat)
  | .keys _ kind keys => do
    let placed ← drawKeys keys
    let distance ← cell (kind.record (placed.map Key.cell))
    return .keys distance kind placed
  | .lists _ lists => do
    let placed ← drawLists lists
    let distance ← cell (listsRecord (placed.map KeyList.cell))
    return .lists distance placed

/-- Lays out keys side by side. -/
def drawKeys : List (Key α) → Drawing (List (Key Nat))
  | [] => pure []
  | key :: keys => do
    let placed ← key.draw
    return placed :: (← drawKeys keys)

/-- Lays out lists side by side. -/
def drawLists : List (KeyList α) → Drawing (List (KeyList Nat))
  | [] => pure []
  | list :: lists => do
    let placed ← list.draw
    return placed :: (← drawLists lists)

end

/-! ## Images -/

/-- The header of an image. -/
def header (timestamp root binSize : Nat) : Bytes :=
  let fields := dword HiveFile.headerSignature ++ dword 1 ++ dword 1 ++
    Bytes.ofLittleEndian 8 timestamp ++ dword 1 ++ dword 5 ++ dword 0 ++ dword 1 ++ dword root ++
    dword binSize
  fields ++ zeros (0x1000 - fields.length)

/-- The size of a bin that holds this much in its cells. -/
def binSize (cells : Nat) : Nat :=
  (binHeaderSize + cells + 0xFFF) / 0x1000 * 0x1000

/-- What a bin starts with. -/
def binHeader (size : Nat) : Bytes :=
  dword Image.binSignature ++ dword 0 ++ dword size ++ zeros (binHeaderSize - 12)

/-- A bin. -/
def bin (cells : Bytes) : Bytes :=
  let size := binSize cells.length
  binHeader size ++ cells ++ zeros (size - binHeaderSize - cells.length)

/-- The image with these cells, of which the one at a distance holds the root. -/
def imageOf (timestamp root : Nat) (cells : Bytes) : Image :=
  ⟨(header timestamp root (binSize cells.length) ++ bin cells).toByteArray⟩

/-- The image of a hive whose root is laid out like this. -/
def image (timestamp : Nat) (root : Key α) : Image :=
  let (placed, cells) := root.draw.run []
  imageOf timestamp placed.cell cells

end HiveDump.Layout
