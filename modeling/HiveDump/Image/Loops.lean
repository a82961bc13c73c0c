import HiveDump.Image.Payload
import HiveDump.Image.SubkeyList
import HiveDump.Loop

/-!
# Reading an image turn by turn

How many slots a list has, how long a payload is and which lists a list of lists names are numbers
of the image, so they may be anything. The functions that read lists and payloads are given here as
loops: one turn reads one slot, or one list of those that are still to be read.

The lists still to be read are a stack. A list of lists puts the lists that it names on it, each
with how deep it nests; a list that was put on it before is refused, and so is one too deep.
-/

namespace HiveDump.Image

/-! ## Slots -/

/-- A loop over slots that stand side by side: the slot to read next, and what was made of those
before it. -/
structure SlotLoop (κ : Type) where
  slot : Int
  made : κ

/-- Reads a slot of a size, unless it is over. -/
def slotTurn {ε κ : Type} (size : Nat) (ended : κ → Bool) (read : Int → κ → Except ε κ)
    (l : SlotLoop κ) : SlotLoop κ ⊕ Except ε κ :=
  if ended l.made then .inr (.ok l.made)
  else
    match read l.slot l.made with
    | .ok made => .inl ⟨l.slot + size, made⟩
    | .error fault => .inr (.error fault)

/-- How many slots are left, and what the slots before them name. -/
structure Naming (α : Type) where
  left : Nat
  found : List α

/-- Whether no slot is left. -/
def Naming.ended {α : Type} (made : Naming α) : Bool :=
  made.left == 0

/-- Reads a slot that names a cell. -/
def cellTurn (im : Image) (size : Nat) :
    SlotLoop (Naming Int) → SlotLoop (Naming Int) ⊕ Except RecordFault (Naming Int) :=
  slotTurn size Naming.ended fun slot made =>
    (im.linked slot).map fun cell => ⟨made.left - 1, made.found ++ [cell]⟩

/-- The list that a slot of the list of lists at `list` names, which was not seen before. -/
def newList (im : Image) (list : Int) (seen : List Int) (slot : Int) :
    Except Fault ListRecord := do
  let sub ← (do
    let c ← im.cell (← im.linked slot)
    return ⟨c.content, ← im.child c⟩ : Except RecordFault ListRecord).mapError .record
  if sub.offset ∈ seen then throw (.listLoop list sub.offset)
  return sub

/-- Reads a slot that names a list; the lists seen so far stand beside those found. -/
def sublistTurn (im : Image) (list : Int) :
    SlotLoop (Naming ListRecord × List Int) →
      SlotLoop (Naming ListRecord × List Int) ⊕ Except Fault (Naming ListRecord × List Int) :=
  slotTurn 4 (fun made => made.1.ended) fun slot (made, seen) =>
    (im.newList list seen slot).map fun sub =>
      (⟨made.left - 1, made.found ++ [sub]⟩, sub.offset :: seen)

/-- How much of a payload is left, and what the segments before it hold. -/
structure Gathering where
  length : Nat
  bytes : Bytes

/-- Reads a slot that names a segment of a payload. -/
def segmentTurn (im : Image) :
    SlotLoop Gathering → SlotLoop Gathering ⊕ Except RecordFault Gathering :=
  slotTurn 4 (fun made => made.length == 0) fun slot made =>
    (im.linked slot >>= im.cell).map fun c =>
      ⟨made.length - segmentSize,
        made.bytes ++ (im.cellBytes c).take (min segmentSize made.length)⟩

/-! ## Lists of lists -/

/-- A loop over lists: those still to be read with how deep they nest, the next one first; the lists
seen so far; the node cells found. -/
structure ListLoop where
  pending : List (ListRecord × Nat)
  seen : List Int
  found : List Int

/-- The loop that has read nothing of a list. -/
def ListLoop.of (list : ListRecord) : ListLoop :=
  ⟨[(list, 0)], [list.offset], []⟩

/-- What one list comes to: the node cells that it names, the lists that it names, and the lists
seen behind it. -/
structure ListRead where
  found : List Int := []
  subs : List ListRecord := []
  seen : List Int

/-- Reads one list at a depth. -/
def readList (im : Image) (list : ListRecord) (depth : Nat) (seen : List Int) :
    Except Fault ListRead := do
  let count ← (im.word (list.offset + 2)).mapError .record
  match list.content with
  | .listOfLists =>
    if maxListDepth ≤ depth then throw (.listTooDeep list.offset)
    let (subs, seen) ← im.sublists list.offset (list.offset + 4) count seen
    return { subs, seen }
  | content =>
    match content.slotSize? with
    | some size =>
      let found ← (im.slots size (list.offset + 4) count).mapError .record
      return { found, seen }
    | none => throw (.record (.notAList list.offset))

/-- Reads the list on top. -/
def listTurn (im : Image) : ListLoop → ListLoop ⊕ Except Fault (List Int)
  | ⟨[], _, found⟩ => .inr (.ok found)
  | ⟨(list, depth) :: pending, seen, found⟩ =>
    match im.readList list depth seen with
    | .ok r => .inl ⟨r.subs.map (·, depth + 1) ++ pending, r.seen, found ++ r.found⟩
    | .error fault => .inr (.error fault)

/-! ## What reading comes to -/

open Loop (EndsWithin)

/-- Whether lists and payloads are read in a number of turns that the size of the image bounds,
whatever counts and lengths stand in it. -/
structure ReadingEnds (im : Image) : Prop where
  /-- A list of values, or one of keys. -/
  cells : ∀ size slot count, 0 < size →
    EndsWithin (im.cellTurn size) ⟨slot, count, []⟩ (2 * im.size + 1)
      ((im.slots size slot count).map fun cells => ⟨0, cells⟩)
  /-- The slots of a list of lists. -/
  sublists : ∀ list slot count seen,
    EndsWithin (im.sublistTurn list) ⟨slot, ⟨count, []⟩, seen⟩ (2 * im.size + 1)
      ((im.sublists list slot count seen).map fun (subs, seen) => (⟨0, subs⟩, seen))
  /-- A list with the lists that it names, those that they name, and so on. -/
  lists : ∀ list, EndsWithin im.listTurn (.of list) (2 * im.size + 2) (im.flatten list)
  /-- The segments of a payload. -/
  segments : ∀ slot length,
    EndsWithin im.segmentTurn ⟨slot, length, []⟩ (2 * im.size + 1)
      ((im.segments slot ((length + segmentSize - 1) / segmentSize) length).map fun bytes =>
        ⟨0, bytes⟩)

end HiveDump.Image
