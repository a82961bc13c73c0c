import HiveDump.Image.Loops
import HiveDump.Proofs.Image.KeyLists

/-!
# The loops of an image end

Every turn of a loop over slots reads a number at an offset behind the one before it, and only so
many offsets of an image can be read. Every turn of the loop over lists takes a list off the stack,
and only a list that was not seen before gets on it. So all of these loops end, whatever counts and
lengths stand in the image, and they give what the functions without turns give.

Results:
* **`readingEnds`**: the loops end within a number of turns that the image's size bounds;
* `length_le_of_slots`, **`length_le_of_flatten`**: what a list can name is bounded alike.
-/

namespace HiveDump.Image

open Loop (EndsWithin)

variable {im : Image} {ε κ : Type}

/-! ## Slots that can be read -/

theorem readable_of_linked {slot cell : Int} (h : im.linked slot = .ok cell) :
    im.Readable slot 4 := by
  obtain ⟨distance, hd, -⟩ := Failing.bind_eq_ok.mp h
  exact readable_of_number hd

/-- How many slots may still be read from an offset on. -/
def slotsFrom (im : Image) (slot : Int) : Nat :=
  if -im.size ≤ slot then (im.size - slot).toNat else 0

theorem slotsFrom_le (im : Image) (slot : Int) : im.slotsFrom slot ≤ 2 * im.size := by
  unfold slotsFrom
  split <;> omega

theorem slotsFrom_lt {slot : Int} {size : Nat} (hs : 0 < size) (h : im.Readable slot 4) :
    im.slotsFrom (slot + size) < im.slotsFrom slot := by
  unfold slotsFrom
  unfold Readable at h
  split <;> split <;> omega

section SlotLoops

variable {size : Nat} {ended : κ → Bool} {read : Int → κ → Except ε κ}

theorem slotTurn_eq_inl {l next : SlotLoop κ} :
    slotTurn size ended read l = .inl next ↔
      ended l.made = false ∧ ∃ made, read l.slot l.made = .ok made ∧
        next = ⟨l.slot + size, made⟩ := by
  unfold slotTurn
  cases ended l.made with
  | true => simp
  | false => cases read l.slot l.made <;> simp [eq_comm]

theorem slotTurn_eq_inr {l : SlotLoop κ} {last : Except ε κ} :
    slotTurn size ended read l = .inr last ↔
      (ended l.made = true ∧ last = .ok l.made) ∨
        ended l.made = false ∧ ∃ fault, read l.slot l.made = .error fault ∧
          last = .error fault := by
  unfold slotTurn
  cases ended l.made with
  | true => simp [eq_comm]
  | false => cases read l.slot l.made <;> simp [eq_comm]

/-- A loop over slots ends, and with what a function gives that reads a slot and goes on behind. -/
theorem endsWithin_slotTurn {result : Int → κ → Except ε κ} (hs : 0 < size)
    (hread : ∀ {slot made made'}, read slot made = .ok made' → im.Readable slot 4)
    (hended : ∀ {slot made}, ended made = true → result slot made = .ok made)
    (hon : ∀ {slot made}, ended made = false →
      result slot made = read slot made >>= result (slot + size))
    (slot : Int) (made : κ) :
    EndsWithin (slotTurn size ended read) ⟨slot, made⟩ (2 * im.size + 1) (result slot made) := by
  refine (Loop.endsWithin_of_variant (P := fun l r => r = result l.slot l.made)
    (fun l => im.slotsFrom l.slot) ?_ ?_ rfl).mono (Nat.succ_le_succ (im.slotsFrom_le slot))
  · rintro l next _ rfl hturn
    obtain ⟨ho, made, hr, rfl⟩ := slotTurn_eq_inl.mp hturn
    refine ⟨?_, slotsFrom_lt hs (hread hr)⟩
    rw [hon ho, hr]
    rfl
  · rintro l _ last rfl hturn
    rcases slotTurn_eq_inr.mp hturn with ⟨ho, rfl⟩ | ⟨ho, fault, hr, rfl⟩
    · rw [hended ho]
    · rw [hon ho, hr]
      rfl

end SlotLoops

/-! ## Cells that slots name -/

theorem Naming.ended_eq_true {α : Type} {made : Naming α} : made.ended = true ↔ made.left = 0 := by
  simp [Naming.ended]

/-- What a loop over slots that name cells comes to. -/
def cellsBehind (im : Image) (size : Nat) (slot : Int) (made : Naming Int) :
    Except RecordFault (Naming Int) :=
  (im.slots size slot made.left).map fun cells => ⟨0, made.found ++ cells⟩

theorem slots_succ (im : Image) (size : Nat) (slot : Int) (n : Nat) :
    im.slots size slot (n + 1) = (im.linked slot >>= fun cell =>
      (im.slots size (slot + size) n).map fun rest => cell :: rest) := by
  rw [slots]
  cases im.linked slot with
  | error fault => rfl
  | ok cell => cases im.slots size (slot + size) n <;> rfl

theorem cells_end {size : Nat} (hs : 0 < size) (slot : Int) (made : Naming Int) :
    EndsWithin (im.cellTurn size) ⟨slot, made⟩ (2 * im.size + 1)
      (im.cellsBehind size slot made) := by
  refine endsWithin_slotTurn hs ?_ ?_ ?_ slot made
  · intro slot made made' h
    obtain ⟨cell, hc, -⟩ := Failing.map_eq_ok.mp h
    exact readable_of_linked hc
  · rintro slot ⟨left, found⟩ h
    cases Naming.ended_eq_true.mp h
    simp [cellsBehind, slots, Except.map]
  · rintro slot ⟨left | left, found⟩ h
    · cases h
    · simp only [cellsBehind, slots_succ, Failing.map_bind, Failing.bind_map, Failing.map_map,
        Nat.add_sub_cancel, List.append_assoc, List.singleton_append]

/-- A list that could be read has no more slots than the image has room for. -/
theorem length_le_of_slots {size : Nat} (hs : 0 < size) {slot : Int} {count : Nat}
    {found : List Int} (h : im.slots size slot count = .ok found) :
    found.length ≤ im.slotsFrom slot := by
  induction count generalizing slot found with
  | zero =>
    cases h
    exact Nat.zero_le _
  | succ n ih =>
    obtain ⟨cell, hc, h⟩ := Failing.bind_eq_ok.mp h
    obtain ⟨rest, hrest, h⟩ := Failing.bind_eq_ok.mp h
    cases h
    have hlt := slotsFrom_lt hs (readable_of_linked hc)
    have hle := ih hrest
    rw [List.length_cons]
    omega

/-! ## Lists that slots name -/

/-- What a loop over slots that name lists comes to. -/
def listsBehind (im : Image) (list slot : Int) (made : Naming ListRecord × List Int) :
    Except Fault (Naming ListRecord × List Int) :=
  (im.sublists list slot made.1.left made.2).map fun (subs, seen) =>
    (⟨0, made.1.found ++ subs⟩, seen)

/-- A list that slots name is new, and its letters can be read. -/
theorem newList_eq_ok {list slot : Int} {seen : List Int} {sub : ListRecord}
    (h : im.newList list seen slot = .ok sub) :
    sub.offset ∉ seen ∧ im.Readable slot 4 ∧ im.Readable sub.offset 2 := by
  obtain ⟨sub', hnamed, h⟩ := Failing.bind_eq_ok.mp h
  obtain ⟨cell, hcell, hnamed⟩ := Failing.bind_eq_ok.mp (Failing.mapError_eq_ok.mp hnamed)
  obtain ⟨c, -, hnamed⟩ := Failing.bind_eq_ok.mp hnamed
  obtain ⟨content, hchild, hnamed⟩ := Failing.bind_eq_ok.mp hnamed
  cases hnamed
  have hletters : ∃ letters, im.letters c = .ok letters := by
    unfold child at hchild
    split at hchild
    · cases hchild
    · obtain ⟨letters, hl, -⟩ := Failing.bind_eq_ok.mp hchild
      exact ⟨letters, hl⟩
  split at h
  · cases h
  · next hnew =>
    cases h
    exact ⟨hnew, readable_of_linked hcell, (im.read_eq_ok_iff _ _).mp hletters⟩

theorem sublists_succ (im : Image) (list slot : Int) (n : Nat) (seen : List Int) :
    im.sublists list slot (n + 1) seen = (im.newList list seen slot >>= fun sub =>
      (im.sublists list (slot + 4) n (sub.offset :: seen)).map fun (rest, seen) =>
        (sub :: rest, seen)) := by
  rw [sublists, newList]
  cases (do
    let c ← im.cell (← im.linked slot)
    return ⟨c.content, ← im.child c⟩ : Except RecordFault ListRecord) with
  | error fault => rfl
  | ok sub =>
    simp only [Failing.mapError_ok, bind, Except.bind]
    split
    · rfl
    · change _ = (im.sublists list (slot + 4) n (sub.offset :: seen)).map _
      cases im.sublists list (slot + 4) n (sub.offset :: seen) <;> rfl

theorem sublists_end (list slot : Int) (made : Naming ListRecord × List Int) :
    EndsWithin (im.sublistTurn list) ⟨slot, made⟩ (2 * im.size + 1)
      (im.listsBehind list slot made) := by
  refine endsWithin_slotTurn (by decide) ?_ ?_ ?_ slot made
  · intro slot made made' h
    obtain ⟨sub, hsub, -⟩ := Failing.map_eq_ok.mp h
    exact (newList_eq_ok hsub).2.1
  · rintro slot ⟨⟨left, found⟩, seen⟩ h
    cases Naming.ended_eq_true.mp h
    simp [listsBehind, sublists, Except.map]
  · rintro slot ⟨⟨left | left, found⟩, seen⟩ h
    · cases h
    · simp only [listsBehind, sublists_succ, Failing.map_bind, Failing.bind_map, Failing.map_map,
        Nat.add_sub_cancel, List.append_assoc, List.singleton_append, Int.cast_ofNat_Int]

/-- The lists that slots name come on top of those seen before. -/
theorem seen_of_sublists {list slot : Int} {count : Nat} {seen seen' : List Int}
    {subs : List ListRecord} (h : im.sublists list slot count seen = .ok (subs, seen')) :
    seen' = (subs.map (·.offset)).reverse ++ seen ∧ (seen.Nodup → seen'.Nodup) ∧
      ∀ sub ∈ subs, im.Readable sub.offset 2 := by
  induction count generalizing slot seen subs with
  | zero =>
    cases h
    exact ⟨rfl, id, fun _ hm => absurd hm List.not_mem_nil⟩
  | succ n ih =>
    rw [sublists_succ] at h
    obtain ⟨sub, hsub, h⟩ := Failing.bind_eq_ok.mp h
    obtain ⟨⟨rest, last⟩, hrest, h⟩ := Failing.map_eq_ok.mp h
    cases h
    obtain ⟨hnew, -, hreadable⟩ := newList_eq_ok hsub
    obtain ⟨rfl, hnodup, hall⟩ := ih hrest
    refine ⟨by simp, fun hn => hnodup (List.nodup_cons.mpr ⟨hnew, hn⟩), ?_⟩
    exact List.forall_mem_cons.mpr ⟨hreadable, hall⟩

/-! ## Segments -/

/-- How many segments a payload of this length has. -/
def segmentCount (length : Nat) : Nat :=
  (length + segmentSize - 1) / segmentSize

theorem segmentSize_pos : 0 < segmentSize :=
  Nat.succ_pos _

theorem segmentCount_zero : segmentCount 0 = 0 := by
  have hpos := segmentSize_pos
  exact Nat.div_eq_of_lt (by omega)

/-- A payload that is not empty has one segment more than what is left of it behind the first. -/
theorem segmentCount_of_ne_zero {length : Nat} (h : length ≠ 0) :
    segmentCount length = segmentCount (length - segmentSize) + 1 := by
  have hpos := segmentSize_pos
  unfold segmentCount
  by_cases hle : length ≤ segmentSize
  · rw [Nat.sub_eq_zero_of_le hle, Nat.div_eq_of_lt (by omega : 0 + segmentSize - 1 < segmentSize)]
    exact Nat.div_eq_of_lt_le (by omega) (by omega)
  · rw [← Nat.add_div_right _ hpos]
    congr 1
    omega

/-- What a loop over slots that name segments comes to. -/
def segmentsBehind (im : Image) (slot : Int) (made : Gathering) : Except RecordFault Gathering :=
  (im.segments slot (segmentCount made.length) made.length).map fun bytes =>
    ⟨0, made.bytes ++ bytes⟩

theorem segments_succ (im : Image) (slot : Int) (n length : Nat) :
    im.segments slot (n + 1) length = (im.linked slot >>= im.cell >>= fun c =>
      (im.segments (slot + 4) n (length - segmentSize)).map fun rest =>
        (im.cellBytes c).take (min segmentSize length) ++ rest) := by
  rw [segments]
  generalize length - segmentSize = behind
  cases im.linked slot with
  | error fault => rfl
  | ok cell =>
    simp only [bind, Except.bind]
    cases im.cell cell with
    | error fault => rfl
    | ok c => cases im.segments (slot + 4) n behind <;> rfl

theorem segments_end (slot : Int) (made : Gathering) :
    EndsWithin im.segmentTurn ⟨slot, made⟩ (2 * im.size + 1) (im.segmentsBehind slot made) := by
  refine endsWithin_slotTurn (by decide) ?_ ?_ ?_ slot made
  · intro slot made made' h
    obtain ⟨c, hc, -⟩ := Failing.map_eq_ok.mp h
    obtain ⟨cell, hcell, -⟩ := Failing.bind_eq_ok.mp hc
    exact readable_of_linked hcell
  · rintro slot ⟨length, bytes⟩ h
    cases (beq_iff_eq.mp h : length = 0)
    simp [segmentsBehind, segmentCount_zero, segments, Except.map]
  · rintro slot ⟨length, bytes⟩ h
    have hpos : length ≠ 0 := beq_eq_false_iff_ne.mp h
    rw [segmentsBehind, segmentCount_of_ne_zero hpos, segments_succ]
    generalize im.linked slot >>= im.cell = found
    simp only [segmentsBehind, Failing.map_bind, Failing.bind_map, Failing.map_map,
      List.append_assoc, Int.cast_ofNat_Int]

/-! ## Lists of lists -/

/-- Adds the cells that a list at a depth names. -/
def addAt (im : Image) (acc : List Int × List Int) (next : ListRecord × Nat) :
    Except Fault (List Int × List Int) :=
  Layout.addList im (maxListDepth - next.2) acc next.1

/-- What the loop over lists comes to. -/
def cellsPending (im : Image) (l : ListLoop) : Except Fault (List Int) :=
  (l.pending.foldlM im.addAt (l.found, l.seen)).map (·.1)

/-- Lists may be gone through behind other cells. -/
theorem foldlM_addList (levels : Nat) (front : List Int) (subs : List ListRecord)
    (found seen : List Int) :
    (subs.foldlM (Layout.addList im levels) (found, seen)).map (fun r => (front ++ r.1, r.2)) =
      subs.foldlM (Layout.addList im levels) (front ++ found, seen) := by
  induction subs generalizing found seen with
  | nil => rfl
  | cons sub subs ih =>
    simp only [List.foldlM_cons, Layout.addList, Failing.map_bind, Failing.bind_map, ih,
      List.append_assoc]

/-- The lists that a list names are one level below it. -/
theorem foldlM_addAt (depth : Nat) (subs : List ListRecord) (acc : List Int × List Int) :
    (subs.map (·, depth + 1)).foldlM im.addAt acc =
      subs.foldlM (Layout.addList im (maxListDepth - (depth + 1))) acc := by
  rw [List.foldlM_map]
  rfl

/-- A list comes to what reading it gives, and behind that to what the lists come to that it
names. -/
theorem addAt_eq (list : ListRecord) (depth : Nat) (found seen : List Int) :
    im.addAt (found, seen) (list, depth) = (im.readList list depth seen >>= fun r =>
      (r.subs.map (·, depth + 1)).foldlM im.addAt (found ++ r.found, r.seen)) := by
  obtain ⟨offset, content⟩ := list
  rw [addAt, Layout.addList, flattenFrom, readList]
  cases (im.word (offset + 2)).mapError Fault.record with
  | error fault => rfl
  | ok count =>
    have hslots (size : Nat) :
        (((im.slots size (offset + 4) count).mapError Fault.record >>= fun cells =>
          .ok (cells, seen)).map fun more => (found ++ more.1, more.2)) =
        ((im.slots size (offset + 4) count).mapError Fault.record >>= fun cells =>
          .ok { found := cells, seen := seen : ListRead }) >>= fun r =>
            (r.subs.map (·, depth + 1)).foldlM im.addAt (found ++ r.found, r.seen) := by
      cases im.slots size (offset + 4) count <;> rfl
    cases content with
    | listOfLists =>
      cases hd : maxListDepth - depth with
      | zero =>
        have hdeep : maxListDepth ≤ depth := by omega
        simp only [bind, Except.bind, if_pos hdeep]
        rfl
      | succ levels =>
        have hdeep : ¬ maxListDepth ≤ depth := by omega
        have hlevels : maxListDepth - (depth + 1) = levels := by omega
        simp only [bind, Except.bind, if_neg hdeep]
        cases im.sublists offset (offset + 4) count seen with
        | error fault => rfl
        | ok r =>
          change (r.1.foldlM (Layout.addList im levels) ([], r.2)).map _ =
            (r.1.map (·, depth + 1)).foldlM im.addAt (found ++ [], r.2)
          rw [foldlM_addList, foldlM_addAt, hlevels]
    | record kind => cases kind <;> first | exact hslots 8 | rfl
    | indexList => exact hslots 4
    | _ => rfl

/-- What reading one list gives: no more cells than the image has room for, and lists that were not
seen before. -/
structure ReadList (im : Image) (seen : List Int) (r : ListRead) : Prop where
  length_le : r.found.length ≤ 2 * im.size
  seen_eq : r.seen = (r.subs.map (·.offset)).reverse ++ seen
  nodup : seen.Nodup → r.seen.Nodup
  readable : ∀ sub ∈ r.subs, im.Readable sub.offset 2

theorem slotSize?_pos {content : Content} {size : Nat} (h : content.slotSize? = some size) :
    0 < size := by
  unfold Content.slotSize? at h
  split at h <;> cases h <;> decide

theorem readList_of_ok {list : ListRecord} {depth : Nat} {seen : List Int} {r : ListRead}
    (h : im.readList list depth seen = .ok r) : im.ReadList seen r := by
  obtain ⟨count, -, h⟩ := Failing.bind_eq_ok.mp h
  split at h
  · split at h
    · cases h
    · obtain ⟨⟨subs, seen'⟩, hsubs, h⟩ := Failing.bind_eq_ok.mp h
      cases h
      obtain ⟨hseen, hnodup, hreadable⟩ := seen_of_sublists hsubs
      exact ⟨Nat.zero_le _, hseen, hnodup, hreadable⟩
  · split at h
    · next size hsize =>
      obtain ⟨cells, hcells, h⟩ := Failing.bind_eq_ok.mp h
      cases h
      have hle := length_le_of_slots (slotSize?_pos hsize) (Failing.mapError_eq_ok.mp hcells)
      exact ⟨Nat.le_trans hle (im.slotsFrom_le _), rfl, id, fun _ hm => absurd hm List.not_mem_nil⟩
    · cases h

theorem of_listTurn_inl {l next : ListLoop} (h : im.listTurn l = .inl next) :
    ∃ list depth pending r, l.pending = (list, depth) :: pending ∧
      im.readList list depth l.seen = .ok r ∧
      next = ⟨r.subs.map (·, depth + 1) ++ pending, r.seen, l.found ++ r.found⟩ := by
  obtain ⟨_ | ⟨⟨list, depth⟩, pending⟩, seen, found⟩ := l
  · cases h
  · rw [listTurn] at h
    cases hr : im.readList list depth seen with
    | error fault => rw [hr] at h; cases h
    | ok r =>
      rw [hr] at h
      cases h
      exact ⟨list, depth, pending, r, rfl, hr, rfl⟩

theorem of_listTurn_inr {l : ListLoop} {last : Except Fault (List Int)}
    (h : im.listTurn l = .inr last) :
    (l.pending = [] ∧ last = .ok l.found) ∨
      ∃ list depth pending fault, l.pending = (list, depth) :: pending ∧
        im.readList list depth l.seen = .error fault ∧ last = .error fault := by
  obtain ⟨_ | ⟨⟨list, depth⟩, pending⟩, seen, found⟩ := l
  · cases h
    exact .inl ⟨rfl, rfl⟩
  · rw [listTurn] at h
    cases hr : im.readList list depth seen with
    | ok r => rw [hr] at h; cases h
    | error fault =>
      rw [hr] at h
      cases h
      exact .inr ⟨list, depth, pending, fault, rfl, hr, rfl⟩

/-- The loop over lists that starts at the list at `first`: it has seen other lists beside that one
once each, and all of those apart from the pending ones have brought no more cells than the image
has room for. -/
structure Proper (im : Image) (first : Int) (l : ListLoop) : Prop where
  seen : ∃ others, l.seen = others ++ [first] ∧ ∀ o ∈ others, im.Readable o 2
  nodup : l.seen.Nodup
  length_le : l.found.length + 2 * im.size * l.pending.length ≤ 2 * im.size * l.seen.length

theorem proper_of (im : Image) (list : ListRecord) : im.Proper list.offset (.of list) where
  seen := ⟨[], rfl, fun _ hm => absurd hm List.not_mem_nil⟩
  nodup := List.nodup_cons.mpr ⟨List.not_mem_nil, List.nodup_nil⟩
  length_le := Nat.le_of_eq (Nat.zero_add _)

theorem Proper.length_seen_le {first : Int} {l : ListLoop} (h : im.Proper first l) :
    l.seen.length ≤ 2 * im.size + 1 := by
  obtain ⟨others, hseen, hreadable⟩ := h.seen
  have hn := h.nodup
  rw [hseen] at hn ⊢
  have hle := length_le_of_readable (by decide) (List.nodup_append.mp hn).1 hreadable
  rw [List.length_append, List.length_singleton]
  omega

/-- A turn takes one list from the stack, and puts on it those that are seen for the first time. -/
theorem Proper.next {first : Int} {l next : ListLoop} (h : im.Proper first l)
    (hturn : im.listTurn l = .inl next) :
    im.Proper first next ∧
      next.pending.length + l.seen.length + 1 = l.pending.length + next.seen.length := by
  obtain ⟨list, depth, pending, r, hpending, hr, rfl⟩ := of_listTurn_inl hturn
  obtain ⟨hle, hseen, hnodup, hreadable⟩ := readList_of_ok hr
  obtain ⟨others, hothers, hall⟩ := h.seen
  have hlength : r.seen.length = r.subs.length + l.seen.length := by
    rw [hseen, List.length_append, List.length_reverse, List.length_map]
  have hbound := h.length_le
  rw [hpending, List.length_cons] at hbound
  refine ⟨⟨⟨(r.subs.map (·.offset)).reverse ++ others, ?_, ?_⟩, hnodup h.nodup, ?_⟩, ?_⟩
  · rw [hseen, hothers, List.append_assoc]
  · intro o ho
    rcases List.mem_append.mp ho with ho | ho
    · obtain ⟨sub, hsub, rfl⟩ := List.mem_map.mp (List.mem_reverse.mp ho)
      exact hreadable sub hsub
    · exact hall o ho
  · simp only [List.length_append, List.length_map, hlength, Nat.mul_add] at hbound ⊢
    omega
  · simp only [List.length_append, List.length_map, hlength, hpending, List.length_cons]
    omega

theorem cellsPending_of (im : Image) (list : ListRecord) :
    im.cellsPending (.of list) = im.flatten list := by
  simp only [cellsPending, ListLoop.of, List.foldlM_cons, List.foldlM_nil, flatten]
  rw [addAt, Layout.addList]
  cases im.flattenFrom maxListDepth list [list.offset] <;> rfl

/-- **Lists of lists are gone through** in no more turns than the image has room for lists. -/
theorem lists_end (im : Image) (list : ListRecord) :
    EndsWithin im.listTurn (.of list) (2 * im.size + 2) (im.flatten list) := by
  have hstart : 1 + (2 * im.size + 1 - 1) + 1 ≤ 2 * im.size + 2 := by omega
  refine (Loop.endsWithin_of_variant
    (P := fun l r => im.Proper list.offset l ∧ r = im.cellsPending l)
    (fun l => l.pending.length + (2 * im.size + 1 - l.seen.length)) ?_ ?_
    ⟨im.proper_of list, (im.cellsPending_of list).symm⟩).mono hstart
  · rintro l next _ ⟨hl, rfl⟩ hturn
    obtain ⟨hnext, hcount⟩ := hl.next hturn
    have hle := hnext.length_seen_le
    refine ⟨⟨hnext, ?_⟩, by omega⟩
    obtain ⟨list, depth, pending, r, hpending, hr, rfl⟩ := of_listTurn_inl hturn
    rw [cellsPending, hpending, List.foldlM_cons, addAt_eq, hr, cellsPending, List.foldlM_append]
    rfl
  · rintro l _ last ⟨hl, rfl⟩ hturn
    rcases of_listTurn_inr hturn with
      ⟨hpending, rfl⟩ | ⟨list, depth, pending, fault, hpending, hr, rfl⟩
    · rw [cellsPending, hpending]
      rfl
    · rw [cellsPending, hpending, List.foldlM_cons, addAt_eq, hr]
      rfl

/-- **The cells that a list can name**, directly or through others, are bounded by the image's
size. -/
theorem length_le_of_flatten {list : ListRecord} {cells : List Int}
    (h : im.flatten list = .ok cells) : cells.length ≤ 2 * im.size * (2 * im.size + 1) := by
  obtain ⟨turns, -, hends⟩ := lists_end im list
  refine hends.result (I := im.Proper list.offset)
    (Q := fun r => ∀ cells, r = .ok cells → cells.length ≤ 2 * im.size * (2 * im.size + 1))
    (fun hl hturn => (hl.next hturn).1) ?_ (im.proper_of list) cells h
  rintro l last hl hturn cells rfl
  rcases of_listTurn_inr hturn with ⟨hpending, hlast⟩ | ⟨_, _, _, fault, -, -, hlast⟩
  · cases hlast
    have hle := hl.length_le
    rw [hpending, List.length_nil, Nat.mul_zero, Nat.add_zero] at hle
    exact Nat.le_trans hle (Nat.mul_le_mul_left _ hl.length_seen_le)
  · cases hlast

/-! ## All of them -/

/-- **Lists and payloads are read in a bounded number of turns.** -/
theorem readingEnds (im : Image) : im.ReadingEnds where
  cells _ slot count hs := cells_end hs slot ⟨count, []⟩
  sublists list slot count seen := sublists_end list slot ⟨⟨count, []⟩, seen⟩
  lists := lists_end im
  segments slot length := segments_end slot ⟨length, []⟩

end HiveDump.Image
