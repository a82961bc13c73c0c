import HiveDump.Proofs.Image.FreeCells
import HiveDump.Proofs.Image.Loops
import HiveDump.Proofs.Image.Opening
import HiveDump.Proofs.Walk.Turns

/-!
# Every walk through an image ends

An image may say anything about its keys: that a key is its own subkey, that two keys share a list,
that a list has four thousand million entries. A walk through it ends all the same. The lists of a
node are no longer than the image has room for, a handle is an offset at which the image can be
read, and no handle is entered twice. An offset in front of the image, which counts from its end, is
a handle of its own.

Results:
* `length_entries_values_le`, `length_entries_children_le`: how long the lists of a node can be;
* **`walk_ends`**: a walk through an opened image ends within a number of turns that the size of the
  image bounds, as do the loops that read its lists and payloads, and enters each offset of the
  image at most once.
-/

namespace HiveDump

namespace Listing

theorem length_entries_le {α : Type} {l : Listing α} {bound : Nat}
    (h : ∀ es, l = .ok es → es.length ≤ bound) : (entries l).length ≤ bound + 1 := by
  cases l with
  | error fault => exact Nat.succ_le_succ (Nat.zero_le _)
  | ok es => exact Nat.le_succ_of_le (h es rfl)

end Listing

namespace Image

variable {im : Image} {record : Int} {cells : List Int}

theorem length_le_of_valueCells (h : im.valueCells record = .ok cells) :
    cells.length ≤ 2 * im.size := by
  obtain ⟨count, -, h⟩ := Failing.bind_eq_ok.mp h
  split at h
  · cases h
    exact Nat.zero_le _
  · obtain ⟨cell, -, h⟩ := Failing.bind_eq_ok.mp h
    obtain ⟨c, -, h⟩ := Failing.bind_eq_ok.mp h
    exact Nat.le_trans (length_le_of_slots (by decide) h) (im.slotsFrom_le _)

theorem length_le_of_subkeyCells (h : im.subkeyCells record = .ok cells) :
    cells.length ≤ 2 * im.size * (2 * im.size + 1) := by
  obtain ⟨count, -, h⟩ := Failing.bind_eq_ok.mp h
  split at h
  · cases h
    exact Nat.zero_le _
  · obtain ⟨list, -, h⟩ := Failing.bind_eq_ok.mp h
    exact length_le_of_flatten h

end Image

namespace HiveFile

open Loop (EndsWithin)
open Walk

theorem length_entries_values_le (h : HiveFile) (n : Node) :
    (Listing.entries (h.values n)).length ≤ 2 * h.image.size + 1 := by
  refine Listing.length_entries_le fun es hes => ?_
  obtain ⟨record, -, hes⟩ := Failing.bind_eq_ok.mp hes
  obtain ⟨cells, hcells, hes⟩ := Failing.bind_eq_ok.mp hes
  cases hes
  rw [List.length_map]
  exact Image.length_le_of_valueCells (Failing.mapError_eq_ok.mp hcells)

theorem length_entries_children_le (h : HiveFile) (n : Node) :
    (Listing.entries (h.children n)).length ≤ 2 * h.image.size * (2 * h.image.size + 1) + 1 := by
  refine Listing.length_entries_le fun es hes => ?_
  obtain ⟨record, cells, -, hcells, rfl⟩ := h.children_eq_ok.mp hes
  rw [List.length_map]
  exact Image.length_le_of_subkeyCells hcells

/-- How many turns of a walk go to one node of an image at most: one to enter it, one for each entry
of its lists, and one at the end of each list. -/
def nodeTurns (size : Nat) : Nat :=
  (2 * size + 1) + (2 * size * (2 * size + 1) + 1) + 3

/-- How many turns a walk through an image of a size takes at most. -/
def walkTurns (size : Nat) : Nat :=
  (2 * size + 1) * nodeTurns size + 1

variable {path : String} {im : Image} {tracing : Bool} {h : HiveFile} {trace : List LogLine}

theorem turns_enter_le (h : HiveFile) (n : Node) :
    (Task.enter n).turns h.source ≤ nodeTurns h.image.size := by
  have hvalues := h.length_entries_values_le n
  have hchildren := h.length_entries_children_le n
  exact Nat.add_le_add_right (Nat.add_le_add hvalues hchildren) 3

/-- **Every walk through an opened image ends.** Whatever the image says and whichever visitor and
policy it is walked with, the walk takes a bounded number of turns and then gives what `Walk.run`
gives, a tally or a fault; lists and payloads are read in a bounded number of turns too; and each
offset of the image is entered at most once. -/
theorem walk_ends (ho : ofImage path im tracing = (.ok h, trace)) {δ : Type} (skipping : Bool)
    (v : Visitor δ) (s : Session δ) :
    EndsWithin (turn h.source skipping v) (start h.source, s) (walkTurns im.size)
        ((run h.source skipping v).perform s) ∧
      im.ReadingEnds ∧
      (handles (enteredNodes (fired h.source skipping v s))).Nodup ∧
      ∀ offset ∈ handles (enteredNodes (fired h.source skipping v s)), im.Readable offset 4 := by
  obtain rfl := image_of_open ho
  refine ⟨run_endsWithin (fun n _ => h.turns_enter_le n) skipping v s, h.image.readingEnds,
    nodup_fired _ _ _ _, ?_⟩
  intro offset hm
  obtain ⟨n, hn, rfl⟩ := List.mem_map.mp hm
  exact Image.readable_of_node (node_of_reachable ho (reachable_of_fired hn))

/-! ## A key that is its own subkey -/

section Ring

open Layout

/-- A root whose list names the root itself, and that twice. -/
def ringRoot : KeyHead :=
  ⟨.oneByte "r", 0, true⟩

/-- This list. -/
def ringList : KeyList Nat :=
  .keys 32 .index [.key 48 ringRoot [] none, .key 48 ringRoot [] none]

/-- An image of nothing but the two. -/
def ringImage : Image :=
  imageOf 0 48 (cellBytes ringList.bytes ++ cellBytes (keyRecord ringRoot 2 32 0 noCell))

theorem cellAt_ringList : CellAt ringImage 32 ringList.bytes := by
  refine ⟨?_, by decide, by decide⟩
  have hh := imageOf_holds 0 48 [] (cellBytes ringList.bytes)
    (cellBytes (keyRecord ringRoot 2 32 0 noCell))
  rwa [List.nil_append] at hh

theorem length_ringList : (cellBytes ringList.bytes).length = 16 := rfl

theorem cellAt_ringRoot : CellAt ringImage 48 (keyRecord ringRoot 2 32 0 noCell) := by
  refine ⟨?_, by decide, ?_⟩
  · have hh := imageOf_holds 0 48 (cellBytes ringList.bytes)
      (cellBytes (keyRecord ringRoot 2 32 0 noCell)) []
    rwa [List.append_nil, length_ringList] at hh
  · rw [length_keyRecord]
    decide

theorem open_ringImage : ∃ trace, ofImage "hive" ringImage false =
    (.ok (opened "hive" ringImage false 48 ringRoot), trace) :=
  ofImage_eq (headed_imageOf 0 _ (by decide)) (by decide) cellAt_ringRoot _ _

theorem walk_ends_ringImage : ∃ h trace, ofImage "hive" ringImage false = (.ok h, trace) ∧
    h.root ∈ Listing.good (h.source.children h.root) ∧
    EndsWithin (turn h.source true silent) (start h.source, ⟨(), Policy.standard, {}, #[]⟩)
        (walkTurns ringImage.size)
        ((run h.source true silent).perform ⟨(), Policy.standard, {}, #[]⟩) ∧
      ringImage.ReadingEnds ∧
      (handles (enteredNodes
        (fired h.source true silent ⟨(), Policy.standard, {}, #[]⟩))).Nodup ∧
      ∀ offset ∈ handles (enteredNodes
        (fired h.source true silent ⟨(), Policy.standard, {}, #[]⟩)),
          ringImage.Readable offset 4 := by
  obtain ⟨trace, ho⟩ := open_ringImage
  refine ⟨_, trace, ho, ?_, walk_ends ho true silent ⟨(), Policy.standard, {}, #[]⟩⟩
  have hroot : CellAt ringImage 48 (keyRecord ringRoot (subkeysOf (some ringList)).length
      (listDistance (some ringList)) 0 noCell) := cellAt_ringRoot
  have hlist : ∀ list, some ringList = some list → ListAt ringImage list := by
    intro list h
    cases h
    exact ⟨⟨cellAt_ringList, by decide, by simp [Key.cell]⟩, by decide, by decide⟩
  have hchildren := children_eq "hive" false 48 ringRoot (headed_imageOf 0 _ (by decide)).binned
    hlist (by decide) hroot
  -- The first entry of the list is read from the root's own cell.
  refine Listing.mem_good.mpr ⟨_, hchildren, _, List.mem_cons_self, outcome_entryAt.mpr ?_⟩
  have hnode := node_root ho
  exact Failing.mapError_eq_ok.mpr hnode

end Ring

end HiveFile

end HiveDump
