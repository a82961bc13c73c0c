import HiveDump.Failing
import HiveDump.Hive.Source
import HiveDump.Image.Item
import HiveDump.Image.SubkeyList

/-!
# Hives in images

`HiveFile.open` checks the header and the first bin of an image and finds the root node;
`HiveFile.source` is the hive as a source. Every list entry is read on its own, so a bad one does
not hide the entries behind it.

A hive can be opened for tracing: then every record read leaves a line in the log.
-/

namespace HiveDump

/-- An opened hive. -/
structure HiveFile where
  /-- The name of the file in messages. -/
  path : String
  image : Image
  /-- Whether records that are read are traced. -/
  tracing : Bool
  root : Node

namespace HiveFile

/-- A line of the log about the image at `path`. -/
def line (path text : String) : LogLine :=
  ⟨.debug, .image, s!"{path}: {text}"⟩

/-- The trace of a node record. -/
def nodeTrace (path : String) (tracing : Bool) (n : Node) : List LogLine :=
  if tracing then [line path s!"nk at {n.handle} name {Quoted.optional n.name}"] else []

/-- The trace of a value record; a payload that did not decode is always reported. -/
def valueTrace (path : String) (tracing : Bool) (v : Value) : List LogLine :=
  let key := Quoted.optional v.key
  (if v.decoded then [] else [line path s!"value {key} at {v.handle} is not valid UTF-16"]) ++
    (if tracing then
      [line path s!"vk at {v.handle} key {key} type {v.kind.describe} length {v.length}"]
    else [])

/-! ## Opening -/

/-- The letters that an image starts with. -/
def headerSignature : Nat := 0x66676572

/-- Checks header and first bin, and finds the record of the root. -/
def rootRecord (im : Image) : Except RecordFault Int := do
  if (← im.dword 0) ≠ headerSignature then throw .notAHive
  im.checkBin Image.binStart
  let distance ← im.dword 0x24
  im.record .node (Image.binStart + distance)

/-- Opens the hive in an image, and traces it. -/
def ofImage (path : String) (im : Image) (tracing : Bool) :
    Except Fault HiveFile × List LogLine :=
  match rootRecord im with
  | .error fault => (.error (.unopenable path (.notAHive fault)), [])
  | .ok record =>
    match im.nodeAt record with
    | .error fault => (.error (.record fault), [])
    | .ok root =>
      let opened := line path s!"opened hive, root key {Quoted.optional root.name} at {root.handle}"
      (.ok ⟨path, im, tracing, root⟩,
        nodeTrace path tracing root ++ if tracing then [opened] else [])

/-- Opens the hive in a file with this content; an empty file cannot be mapped. -/
def ofFile (path : String) (content : ByteArray) (tracing : Bool) :
    Except Fault HiveFile × List LogLine :=
  if content.size = 0 then (.error (.unopenable path .emptyFile), [])
  else ofImage path ⟨content⟩ tracing

/-! ## Lists -/

/-- A fault of a record becomes one of the entry in the cell at `offset`. -/
def entryFault (list : EntryList) (offset : Int) : Fault → Fault
  | .record fault => .badEntry list offset fault
  | fault => fault

/-- A fault of a record becomes one of the list of a node. -/
def listFault (list : EntryList) (node : Int) : Fault → Fault
  | .record fault => .badList list node fault
  | fault => fault

/-- The entry in the cell at an offset, with its trace. -/
def entryAt {α : Type} (list : EntryList) (read : Int → Except Fault α)
    (trace : α → List LogLine) (offset : Int) : Entry α :=
  match read offset with
  | .ok a => { outcome := .ok a, trace := trace a }
  | .error fault => { outcome := .error (entryFault list offset fault) }

variable (h : HiveFile)

/-- The subkeys of a node. -/
def children (n : Node) : Except Fault (List (Entry Node)) := do
  let record ← h.image.recordOfHandle .node n.handle
  let cells ← (h.image.subkeyCells record).mapError (listFault .subkeys n.handle)
  return cells.map <| entryAt .subkeys (fun c => (h.image.node c).mapError .record)
    (nodeTrace h.path h.tracing)

/-- The values of a node. -/
def values (n : Node) : Except Fault (List (Entry Value)) := do
  let record ← h.image.recordOfHandle .node n.handle
  let cells ← (h.image.valueCells record).mapError fun fault => .badList .values n.handle fault
  return cells.map <| entryAt .values h.image.value (valueTrace h.path h.tracing)

/-- The entry at an offset is good if what is there can be read. -/
theorem outcome_entryAt {α : Type} {list : EntryList} {read : Int → Except Fault α}
    {trace : α → List LogLine} {offset : Int} {a : α} :
    (entryAt list read trace offset).outcome = .ok a ↔ read offset = .ok a := by
  unfold entryAt
  cases read offset <;> simp

theorem children_eq_ok {n : Node} {es : List (Entry Node)} :
    h.children n = .ok es ↔ ∃ record cells, h.image.recordOfHandle .node n.handle = .ok record ∧
      h.image.subkeyCells record = .ok cells ∧
      es = cells.map (entryAt .subkeys (fun c => (h.image.node c).mapError .record)
        (nodeTrace h.path h.tracing)) := by
  simp only [children, Failing.bind_eq_ok, Failing.mapError_eq_ok]
  constructor
  · rintro ⟨record, hr, cells, hc, he⟩
    cases he
    exact ⟨record, cells, hr, hc, rfl⟩
  · rintro ⟨record, cells, hr, hc, rfl⟩
    exact ⟨record, hr, cells, hc, rfl⟩

/-- A subkey that can be read lies in a cell. -/
theorem node_of_mem_children {parent child : Node}
    (hc : child ∈ Listing.good (h.children parent)) : h.image.node child.handle = .ok child := by
  obtain ⟨es, hes, e, he, hgood⟩ := Listing.mem_good.mp hc
  obtain ⟨record, cells, -, -, rfl⟩ := h.children_eq_ok.mp hes
  obtain ⟨cell, -, rfl⟩ := List.mem_map.mp he
  have hnode := Failing.mapError_eq_ok.mp (outcome_entryAt.mp hgood)
  rw [Image.handle_of_node hnode]
  exact hnode

/-- The hive as a source. -/
def source : Source where
  root := h.root
  capacity := 2 * h.image.size
  children := h.children
  values := h.values
  lastModified := (h.image.timestampAt 0xC).mapError .record
  timestamp := h.image.nodeTimestamp
  nodeLength := h.image.nodeLength
  valueLength := h.image.valueLength
  dataCell := h.image.dataCell
  close := .ok ()
  handles_le := by
    intro handles hn hl
    refine Image.length_le_of_readable (by decide : 0 < 4) hn fun handle hm => ?_
    obtain ⟨parent, -, child, hc, rfl⟩ := hl handle hm
    exact Image.readable_of_node (h.node_of_mem_children hc)

end HiveFile

end HiveDump
