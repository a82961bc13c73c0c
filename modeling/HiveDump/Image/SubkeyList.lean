import HiveDump.Image.Cell

/-!
# Subkey lists

The subkeys of a node are named by a list record. Three kinds of list name cells of nodes, in slots
of eight bytes (lf and lh) or four (li). The fourth kind (ri) names other lists, in slots of four
bytes. `Image.flatten` follows lists of lists and gives the node cells in order.

A list is reached at most once, and lists of lists nest at most four deep, so flattening ends for
every image. All slots of a list of lists are read before the first list that they name.
-/

namespace HiveDump

/-- A list record: where it starts, and what its cell's letters say. -/
structure ListRecord where
  offset : Int
  content : Content
  deriving DecidableEq, Repr

/-- How deep lists of lists may nest. -/
def maxListDepth : Nat := 4

/-- The length of a slot of a list that names nodes. -/
def Content.slotSize? : Content → Option Nat
  | .record .leafList | .record .hashList => some 8
  | .indexList => some 4
  | _ => none

namespace Image

/-- The cells that `count` slots of a size name, the first slot being at `slot`. -/
def slots (im : Image) (size : Nat) : (slot : Int) → (count : Nat) → Except RecordFault (List Int)
  | _, 0 => .ok []
  | slot, n + 1 => do
    let offset ← im.linked slot
    let rest ← im.slots size (slot + size) n
    return offset :: rest

/-- The lists that `count` slots of the list of lists at `list` name, none of them seen before. -/
def sublists (im : Image) (list : Int) :
    (slot : Int) → (count : Nat) → (seen : List Int) → Except Fault (List ListRecord × List Int)
  | _, 0, seen => .ok ([], seen)
  | slot, n + 1, seen => do
    let sub ← (do
      let c ← im.cell (← im.linked slot)
      return ⟨c.content, ← im.child c⟩ : Except RecordFault ListRecord).mapError .record
    if sub.offset ∈ seen then throw (.listLoop list sub.offset)
    let (rest, seen) ← im.sublists list (slot + 4) n (sub.offset :: seen)
    return (sub :: rest, seen)

/-- The node cells that a list names, and the lists seen so far; `levels` more may nest. -/
def flattenFrom (im : Image) :
    (levels : Nat) → (list : ListRecord) → (seen : List Int) → Except Fault (List Int × List Int)
  | levels, list, seen => do
    let count ← (im.word (list.offset + 2)).mapError .record
    match list.content with
    | .listOfLists =>
      match levels with
      | 0 => throw (.listTooDeep list.offset)
      | n + 1 =>
        let (subs, seen) ← im.sublists list.offset (list.offset + 4) count seen
        subs.foldlM (fun (found, seen) sub => do
          let (more, seen) ← im.flattenFrom n sub seen
          return (found ++ more, seen)) ([], seen)
    | content =>
      match content.slotSize? with
      | some size =>
        let found ← (im.slots size (list.offset + 4) count).mapError .record
        return (found, seen)
      | none => throw (.record (.notAList list.offset))

/-- The node cells that a list names, directly or through other lists, in order. -/
def flatten (im : Image) (list : ListRecord) : Except Fault (List Int) :=
  (im.flattenFrom maxListDepth list [list.offset]).map (·.1)

/-- The list at the cell that the number at `field` names, allocated or not. -/
def subkeyList (im : Image) (field : Int) : Except RecordFault ListRecord := do
  let c ← im.cell (← im.linked field)
  let letters ← im.letters c
  match Content.ofLetters letters with
  | .record .leafList => return ⟨c.content, .record .leafList⟩
  | .record .hashList => return ⟨c.content, .record .hashList⟩
  | .indexList => return ⟨c.content, .indexList⟩
  | .listOfLists => return ⟨c.content, .listOfLists⟩
  | _ => throw (.unknownList letters)

/-- A count of entries; all bits set mean none. -/
def entryCount (im : Image) (field : Int) : Except RecordFault Nat :=
  (im.dword field).map fun n => if n = 0xFFFFFFFF then 0 else n

/-- The cells of the subkeys of the node record at an offset. -/
def subkeyCells (im : Image) (record : Int) : Except Fault (List Int) := do
  if (← (im.entryCount (record + 0x14)).mapError .record) = 0 then return []
  im.flatten (← (im.subkeyList (record + 0x1C)).mapError .record)

/-- The cells of the values of the node record at an offset. -/
def valueCells (im : Image) (record : Int) : Except RecordFault (List Int) := do
  let count ← im.entryCount (record + 0x24)
  if count = 0 then return []
  let c ← im.cell (← im.linked (record + 0x28))
  im.slots 4 c.content count

end Image

end HiveDump
