import HiveDump.Image.Hive

/-!
# Subkey lists as a graph

An entry of a list of lists leads to another list, and the entries taken on the way from one list to
another are a path. What can be found by following entries is said here without saying how lists are
gone through: nothing is kept of the lists seen so far, and a list may reach itself.

* `Image.Leads`: the lists at the ends of paths;
* `Image.Legible`: the lists that can be read on their own;
* `Image.Followable`: the lists from which every path can be taken to its end;
* `Image.Comprises`: the cells that a list names, directly or through the lists it leads to, in the
  order of the entries.
-/

namespace HiveDump

/-- Whether slots of a size, from a slot on, are read as these, in order. -/
def Slotwise {ε α : Type} (read : Int → Except ε α) (slot : Int) (size : Nat) (as : List α) :
    Prop :=
  ∀ (i : Nat) (a : α), as[i]? = some a → read (slot + size * i) = .ok a

namespace Image

variable (im : Image)

/-- The list in the cell that the number at a slot names. -/
def listAt (slot : Int) : Except RecordFault ListRecord := do
  let c ← im.cell (← im.linked slot)
  return ⟨c.content, ← im.child c⟩

/-- Whether the entry with this index of a list of lists leads to another list. -/
structure Links (list : ListRecord) (i : Nat) (sub : ListRecord) : Prop where
  content : list.content = .listOfLists
  lt : ∃ count, im.word (list.offset + 2) = .ok count ∧ i < count
  leads : im.listAt (list.offset + 4 + 4 * i) = .ok sub

/-- Whether a path of entries leads from one list to another. -/
inductive Leads : (list : ListRecord) → (path : List Nat) → (reached : ListRecord) → Prop
  | here (list : ListRecord) : Leads list [] list
  | through {list sub reached : ListRecord} {i : Nat} {path : List Nat} :
      im.Links list i sub → Leads sub path reached → Leads list (i :: path) reached

/-- Whether a list is of a known kind and its count and all of its slots can be read. -/
inductive Legible : ListRecord → Prop
  | cells {list : ListRecord} {size : Nat} {cells : List Int} :
      list.content.slotSize? = some size → im.word (list.offset + 2) = .ok cells.length →
      Slotwise im.linked (list.offset + 4) size cells → Legible list
  | lists {list : ListRecord} {subs : List ListRecord} :
      list.content = .listOfLists → im.word (list.offset + 2) = .ok subs.length →
      Slotwise im.listAt (list.offset + 4) 4 subs → Legible list

/-- Whether every path from a list can be taken: the lists on it can be read, no two paths meet, and
lists of lists do not nest too deep. -/
structure Followable (list : ListRecord) : Prop where
  legible : ∀ {path reached}, im.Leads list path reached → im.Legible reached
  apart : ∀ {path path' reached reached'}, im.Leads list path reached →
    im.Leads list path' reached' → reached.offset = reached'.offset → path = path'
  shallow : ∀ {path reached}, im.Leads list path reached → reached.content = .listOfLists →
    path.length < maxListDepth

/-- Whether a list names these cells, directly or through other lists, in the order of slots. -/
inductive Comprises : ListRecord → List Int → Prop
  | cells {list : ListRecord} {size : Nat} {cells : List Int} :
      list.content.slotSize? = some size → im.word (list.offset + 2) = .ok cells.length →
      Slotwise im.linked (list.offset + 4) size cells → Comprises list cells
  | lists {list : ListRecord} {subs : List ListRecord} {named : List (List Int)} :
      list.content = .listOfLists → im.word (list.offset + 2) = .ok subs.length →
      Slotwise im.listAt (list.offset + 4) 4 subs → named.length = subs.length →
      (∀ (i : Nat) sub cells, subs[i]? = some sub → named[i]? = some cells → Comprises sub cells) →
      Comprises list named.flatten

end Image

namespace HiveFile

variable (h : HiveFile)

/-- Whether a node has subkeys, and they are named by a list. -/
def HasList (n : Node) (list : ListRecord) : Prop :=
  ∃ record count, h.image.recordOfHandle .node n.handle = .ok record ∧
    h.image.entryCount (record + 0x14) = .ok count ∧ count ≠ 0 ∧
    h.image.subkeyList (record + 0x1C) = .ok list

/-- The subkey in a cell, or what is wrong with it. -/
def subkeyAt (cell : Int) : Entry Node :=
  entryAt .subkeys (fun c => (h.image.node c).mapError .record) (nodeTrace h.path h.tracing) cell

end HiveFile

end HiveDump
