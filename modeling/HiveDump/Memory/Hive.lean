import HiveDump.Hive.Source
import HiveDump.Memory.Stored

/-!
# Hives in memory

A `MemoryHive` is built key by key and value by value, without a file. Every key, value and payload
of more than four bytes gets a cell of its own, so handles and byte runs look like those of a file;
and every fault of a damaged hive can be put in: entries that cannot be read, lists that cannot,
handles that are not recognised, data cells that are lost, and a hive that does not close.

Cells are laid out one after the other, each with four bytes in front and rounded up to eight.
-/

namespace HiveDump

/-! ## Records by handle -/

/-- Records by their handle; a record put under a handle hides an earlier one. -/
structure CellMap (α : Type) where
  entries : List (Int × α) := []

namespace CellMap

variable {α : Type}

/-- The record of a handle. -/
def get? (m : CellMap α) (handle : Int) : Option α :=
  (m.entries.find? fun e => e.1 == handle).map (·.2)

/-- Puts a record under a handle. -/
def put (m : CellMap α) (handle : Int) (a : α) : CellMap α :=
  ⟨(handle, a) :: m.entries⟩

/-- Changes the record of a handle, if there is one. -/
def update (m : CellMap α) (handle : Int) (change : α → α) : CellMap α :=
  ⟨m.entries.map fun e => if e.1 = handle then (e.1, change e.2) else e⟩

@[simp] theorem get?_put (m : CellMap α) (handle other : Int) (a : α) :
    (m.put handle a).get? other = if handle = other then some a else m.get? other := by
  by_cases h : handle = other <;> simp [get?, put, h]

@[simp] theorem get?_update (m : CellMap α) (handle other : Int) (change : α → α) :
    (m.update handle change).get? other =
      if handle = other then (m.get? other).map change else m.get? other := by
  obtain ⟨entries⟩ := m
  unfold get? update
  induction entries with
  | nil => simp
  | cons e es ih =>
    by_cases he : e.1 = other <;> by_cases h : handle = other <;> grind

end CellMap

/-! ## Building -/

/-- An entry of a list: something to be read, or a fault to be met. -/
inductive Slot (α : Type)
  | good (a : α)
  | bad (message : String) (handle : Int)

/-- What can be read of a slot. -/
def Slot.good? {α : Type} : Slot α → Option α
  | good a => some a
  | bad _ _ => none

/-- A key with its lists. -/
structure KeyRecord where
  node : Node
  timestamp : Option Int
  length : Int
  children : List (Slot Node) := []
  values : List (Slot Value) := []

/-- A value with the cell of its payload. -/
structure ValueRecord where
  value : Value
  length : Int
  dataCell : Int × Int

/-- A hive in memory. -/
structure MemoryHive where
  root : Node
  keys : CellMap KeyRecord := {}
  values : CellMap ValueRecord := {}
  /-- Where the next cell is put. -/
  nextOffset : Int
  lastModified : Option Int := none
  /-- Whether a list goes on behind an entry that cannot be read. -/
  resumable : Bool := true
  invalidHandles : List Int := []
  lostDataCells : List Int := []
  unreadableLists : List Int := []
  /-- Faults that asking for a value's data cell raises. -/
  dataCellFaults : CellMap Fault := {}
  failsToClose : Bool := false

namespace MemoryHive

/-- The first cell lies behind the header of a file and that of its first bin. -/
def firstOffset : Int := 0x1020

/-- The room that a record takes, with the size in front of it. -/
def cellSize (length : Int) : Int :=
  (length + 4 + 7) / 8 * 8

/-- The size of a key's record without its name. -/
def keyFixedSize : Int := 0x50

/-- The size of a value's record without its name. -/
def valueFixedSize : Int := 0x18

/-- The length of a name in a record: of the text if there is one, else of its stored bytes. -/
def nameLength (name : Option String) (stored : Bytes) : Nat :=
  match name with
  | some s => if s.isEmpty then stored.length else s.length
  | none => stored.length

/-- What a new key is made of. -/
structure NewKey where
  name : Option String
  timestamp : Option Int := none
  length : Option Int := none
  storedName : Bytes := []

/-- What a new value is made of. -/
structure NewValue where
  key : Option String
  kind : Kind
  data : Payload := .absent
  raw : Option Bytes := none
  decoded : Bool := true
  length : Option Int := none
  dataCell : Option (Int × Int) := none
  storedKey : Bytes := []

namespace NewKey

/-- The length of a new key's record. -/
def recordLength (k : NewKey) : Int :=
  k.length.getD (keyFixedSize + nameLength k.name k.storedName)

/-- The record of a new key in the cell at an offset. -/
def record (k : NewKey) (offset : Int) : KeyRecord :=
  { node := { handle := offset, name := k.name, storedName := k.storedName }
    timestamp := k.timestamp
    length := k.recordLength }

end NewKey

namespace NewValue

/-- The stored payload of a new value. -/
def stored (v : NewValue) : Bytes :=
  v.raw.getD (v.data.stored v.kind)

/-- The decoded payload of a new value: nothing if it is undecoded, and what is stored if its kind
has neither texts nor a number was given. -/
def payload (v : NewValue) : Payload :=
  if !v.decoded then .absent
  else if v.kind.isText then v.data
  else match v.data with
    | .number n => .number n
    | _ => .bytes v.stored

/-- The length of a new value's payload. -/
def payloadLength (v : NewValue) : Int :=
  v.length.getD v.stored.length

/-- The length of a new value's record. -/
def recordLength (v : NewValue) : Int :=
  valueFixedSize + nameLength v.key v.storedKey

/-- The new value in the cell at an offset. -/
def value (v : NewValue) (offset : Int) : Value :=
  { handle := offset, key := v.key, storedKey := v.storedKey, kind := v.kind,
    length := v.payloadLength, data := v.payload, raw := v.stored, decoded := v.decoded }

end NewValue

/-- A hive that holds its root alone. -/
def create (root : NewKey) (lastModified : Option Int) (resumable : Bool) : MemoryHive :=
  let record := root.record firstOffset
  { root := record.node
    keys := CellMap.put {} firstOffset record
    nextOffset := firstOffset + cellSize record.length
    lastModified := lastModified
    resumable := resumable }

/-- Appends an entry to the subkeys of a node. -/
def appendChild (h : MemoryHive) (parent : Int) (slot : Slot Node) : MemoryHive :=
  { h with keys := h.keys.update parent fun k => { k with children := k.children ++ [slot] } }

/-- Appends an entry to the values of a node. -/
def appendValue (h : MemoryHive) (node : Int) (slot : Slot Value) : MemoryHive :=
  { h with keys := h.keys.update node fun k => { k with values := k.values ++ [slot] } }

/-- Adds a key below `parent`. -/
def addKey (h : MemoryHive) (parent : Int) (key : NewKey) : MemoryHive × Node :=
  let record := key.record h.nextOffset
  let h := { h with
    keys := h.keys.put h.nextOffset record
    nextOffset := h.nextOffset + cellSize record.length }
  (h.appendChild parent (.good record.node), record.node)

/-- Attaches a value to `node`; a payload of more than four bytes gets a cell of its own. -/
def addValue (h : MemoryHive) (node : Int) (new : NewValue) : MemoryHive × Value :=
  let value := new.value h.nextOffset
  let dataOffset := h.nextOffset + cellSize new.recordLength
  let outOfLine := new.dataCell.isNone && 4 < new.payloadLength
  let record : ValueRecord :=
    { value := value, length := new.recordLength,
      dataCell := new.dataCell.getD
        (if outOfLine then (dataOffset, new.payloadLength + 4) else (0, 0)) }
  let h := { h with
    values := h.values.put value.handle record
    nextOffset := if outOfLine then dataOffset + cellSize new.payloadLength else dataOffset }
  (h.appendValue node (.good value), value)

/-! ## As a source -/

/-- The entries of a list as they are met: the last is the first bad one if reading cannot go on. -/
def met {α : Type} (resumable : Bool) : List (Slot α) → List (Entry α)
  | [] => []
  | .good a :: rest => { outcome := .ok a } :: met resumable rest
  | .bad message handle :: rest =>
    { outcome := .error (.reported .malformed message (some handle)) } ::
      if resumable then met resumable rest else []

variable (h : MemoryHive)

/-- The record of a node, if its handle is recognised. -/
def key (n : Node) : Except Fault KeyRecord :=
  if n.handle ∈ h.invalidHandles then .error (.unknownNode n.handle)
  else match h.keys.get? n.handle with
    | some record => .ok record
    | none => .error (.unknownNode n.handle)

/-- The record of a value, if its handle is recognised. -/
def valueRecord (v : Value) : Except Fault ValueRecord :=
  if v.handle ∈ h.invalidHandles then .error (.unknownValue v.handle)
  else match h.values.get? v.handle with
    | some record => .ok record
    | none => .error (.unknownValue v.handle)

/-- The subkeys of a node. -/
def children (n : Node) : Except Fault (List (Entry Node)) :=
  if n.handle ∈ h.unreadableLists then .error (.unreadableList n.handle)
  else match h.keys.get? n.handle with
    | some record => .ok (met h.resumable record.children)
    | none => .error (.noSuchKey n.handle)

/-- The values of a node. -/
def valueList (n : Node) : Except Fault (List (Entry Value)) :=
  match h.keys.get? n.handle with
  | some record => .ok (met h.resumable record.values)
  | none => .error (.noSuchKey n.handle)

/-- Offset and length of the cell of a value's payload. -/
def dataCell (v : Value) : Except Fault (Int × Int) := do
  match h.dataCellFaults.get? v.handle with
  | some fault => throw fault
  | none =>
    let record ← h.valueRecord v
    if v.handle ∈ h.lostDataCells then throw (.lostDataCell v.handle)
    return record.dataCell

/-- The nodes that are listed below any key. -/
def listed : List Node :=
  h.keys.entries.flatMap fun e => e.2.children.filterMap Slot.good?

theorem mem_of_mem_met {α : Type} {resumable : Bool} {slots : List (Slot α)} {a : α}
    (ha : a ∈ (met resumable slots).filterMap Entry.good?) : a ∈ slots.filterMap Slot.good? := by
  induction slots with
  | nil => simp [met] at ha
  | cons slot slots ih =>
    cases slot with
    | good b =>
      simp only [met, Entry.good?, List.filterMap_cons, List.mem_cons] at ha
      simp only [Slot.good?, List.filterMap_cons, List.mem_cons]
      exact ha.imp_right ih
    | bad message handle =>
      cases resumable with
      | false => simp [met, Entry.good?] at ha
      | true => exact ih (by simpa [met, Entry.good?] using ha)

theorem mem_listed {parent child : Node} (hc : child ∈ Listing.good (h.children parent)) :
    child ∈ h.listed := by
  unfold children at hc
  split at hc
  · simp [Listing.good, Listing.entries, Entry.good?] at hc
  · split at hc
    · next record hr =>
      obtain ⟨e, he, rfl⟩ := Option.map_eq_some_iff.mp hr
      exact List.mem_flatMap.mpr ⟨e, List.mem_of_find?_eq_some he, mem_of_mem_met hc⟩
    · simp [Listing.good, Listing.entries, Entry.good?] at hc

/-- The hive as a source. -/
def source : Source where
  root := h.root
  capacity := h.listed.length
  children := h.children
  values := h.valueList
  lastModified := .ok h.lastModified
  timestamp := fun n => (h.key n).map (·.timestamp)
  nodeLength := fun n => (h.key n).map (·.length)
  valueLength := fun v => (h.valueRecord v).map (·.length)
  dataCell := h.dataCell
  close := if h.failsToClose then .error .unclosable else .ok ()
  handles_le := by
    intro handles hn hl
    have hsub : handles ⊆ h.listed.map (·.handle) := by
      intro handle hm
      obtain ⟨parent, -, child, hc, rfl⟩ := hl handle hm
      exact List.mem_map.mpr ⟨child, h.mem_listed hc, rfl⟩
    simpa using hn.length_le_of_subset hsub

end MemoryHive

end HiveDump
