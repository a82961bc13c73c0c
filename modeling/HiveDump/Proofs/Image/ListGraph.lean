import HiveDump.Proofs.Image.FreeCells
import HiveDump.Proofs.Image.ListPaths
import HiveDump.Proofs.Image.RoundTrip

/-!
# Subkey lists are followed wherever they can be

Lists of lists are gone through one after the other, with the lists seen so far kept beside, and are
refused where they nest too deep. A list is refused if it was seen before, be it on the way to it or
anywhere else; all lists of a list are seen before the first of them is gone through. This comes to
what the graph of lists says (`Flattened`): it succeeds exactly if every path can be taken, and then
gives the cells that the list comprises.

Results:
* `flattenFrom_eq_ok`: what one list comes to;
* `flattened_of_ok`, `flattenFrom_ok_of_sound`: what the lists below it come to, by induction on how
  deep they may nest;
* `flatten_ok_iff`, `comprises_of_flatten`, `Comprises.unique`: what a list comes to as a whole;
* **`flatten_follows`**: the same of the loop over lists, and of the subkeys of a node.
-/

namespace HiveDump

open Loop (EndsWithin)

namespace Image

variable {im : Image} {list sub reached : ListRecord} {subs : List ListRecord}

/-! ## Going through lists -/

open Layout (addList)

theorem flattenFrom_of_slotSize {size levels : Nat} {seen : List Int}
    (hsize : list.content.slotSize? = some size) :
    im.flattenFrom levels list seen = ((im.word (list.offset + 2)).mapError .record >>= fun count =>
      ((im.slots size (list.offset + 4) count).mapError .record).map fun cells =>
        (cells, seen)) := by
  obtain ⟨offset, content⟩ := list
  rw [flattenFrom]
  cases (im.word (offset + 2)).mapError Fault.record with
  | error fault => rfl
  | ok count =>
    have hslots (size : Nat) :
        (((im.slots size (offset + 4) count).mapError Fault.record >>= fun cells =>
          .ok (cells, seen)) : Except Fault (List Int × List Int)) =
          ((im.slots size (offset + 4) count).mapError Fault.record).map fun cells =>
            (cells, seen) := by
      cases im.slots size (offset + 4) count <;> rfl
    cases content with
    | record kind => cases kind <;> cases hsize <;> exact hslots 8
    | indexList => cases hsize; exact hslots 4
    | _ => cases hsize

theorem flattenFrom_of_lists {levels : Nat} {seen : List Int}
    (hcontent : list.content = .listOfLists) :
    im.flattenFrom (levels + 1) list seen =
      ((im.word (list.offset + 2)).mapError .record >>= fun count =>
        im.sublists list.offset (list.offset + 4) count seen >>= fun r =>
          r.1.foldlM (addList im levels) ([], r.2)) := by
  obtain ⟨offset, content⟩ := list
  cases hcontent
  rw [flattenFrom]
  rfl

/-- A list that can be gone through is one of cells, or one of lists that were not seen before. -/
theorem of_flattenFrom_ok {levels : Nat} {seen : List Int} {result : List Int × List Int}
    (h : im.flattenFrom levels list seen = .ok result) :
    (∃ size, list.content.slotSize? = some size) ∨
      list.content = .listOfLists ∧ ∃ n, levels = n + 1 := by
  rw [flattenFrom] at h
  obtain ⟨count, -, h⟩ := Failing.bind_eq_ok.mp h
  split at h
  next hcontent =>
    split at h
    · cases h
    · exact .inr ⟨hcontent, _, rfl⟩
  next =>
    split at h
    · next size hsize => exact .inl ⟨size, hsize⟩
    · cases h

/-- What a list comes to that can be gone through. -/
theorem flattenFrom_eq_ok {levels : Nat} {seen seen' cells : List Int} :
    im.flattenFrom levels list seen = .ok (cells, seen') ↔
      (∃ size, list.content.slotSize? = some size ∧ im.word (list.offset + 2) = .ok cells.length ∧
        Slotwise im.linked (list.offset + 4) size cells ∧ seen' = seen) ∨
      ∃ n subs, levels = n + 1 ∧ im.ListOfLists list subs ∧ (subs.map (·.offset)).Nodup ∧
        (∀ sub ∈ subs, sub.offset ∉ seen) ∧
        subs.foldlM (addList im n) ([], (subs.map (·.offset)).reverse ++ seen) =
          .ok (cells, seen') := by
  constructor
  · intro h
    rcases of_flattenFrom_ok h with ⟨size, hsize⟩ | ⟨hcontent, n, rfl⟩
    · rw [flattenFrom_of_slotSize hsize] at h
      obtain ⟨count, hcount, h⟩ := Failing.bind_eq_ok.mp h
      obtain ⟨found, hfound, h⟩ := Failing.map_eq_ok.mp h
      cases h
      obtain ⟨rfl, hslots⟩ := slots_eq_ok.mp (Failing.mapError_eq_ok.mp hfound)
      exact .inl ⟨size, hsize, Failing.mapError_eq_ok.mp hcount, hslots, rfl⟩
    · rw [flattenFrom_of_lists hcontent] at h
      obtain ⟨count, hcount, h⟩ := Failing.bind_eq_ok.mp h
      obtain ⟨⟨subs, seen₁⟩, hsubs, h⟩ := Failing.bind_eq_ok.mp h
      obtain ⟨rfl, hslots, hnodup, hfresh, rfl⟩ := sublists_eq_ok.mp hsubs
      exact .inr ⟨n, subs, rfl, ⟨hcontent, Failing.mapError_eq_ok.mp hcount, hslots⟩, hnodup,
        hfresh, h⟩
  · rintro (⟨size, hsize, hcount, hslots, rfl⟩ | ⟨n, subs, rfl, hlists, hnodup, hfresh, hfold⟩)
    · rw [flattenFrom_of_slotSize hsize, hcount]
      refine Failing.map_eq_ok.mpr ⟨cells, Failing.mapError_eq_ok.mpr ?_, rfl⟩
      exact slots_eq_ok.mpr ⟨rfl, hslots⟩
    · rw [flattenFrom_of_lists hlists.content, hlists.count]
      refine Failing.bind_eq_ok.mpr ⟨subs.length, rfl, ?_⟩
      refine Failing.bind_eq_ok.mpr ⟨(subs, _), ?_, hfold⟩
      exact sublists_eq_ok.mpr ⟨rfl, hlists.slots, hnodup, hfresh, rfl⟩

/-- What a list comes to that was gone through at a level, with these lists seen before it and those
behind it. -/
structure Flattened (im : Image) (levels : Nat) (list : ListRecord) (seen cells seen' : List Int) :
    Prop where
  sound : im.Sound levels list
  fresh : ∀ offset, im.Below list offset → offset ∉ seen
  comprises : im.Comprises list cells
  seen_iff : ∀ offset, offset ∈ seen' ↔ offset ∈ seen ∨ im.Below list offset

/-- What lists side by side come to. -/
structure FlattenedAll (im : Image) (levels : Nat) (subs : List ListRecord)
    (found seen cells seen' : List Int) : Prop where
  sound : ∀ sub ∈ subs, im.Sound levels sub
  fresh : ∀ sub ∈ subs, ∀ offset, im.Below sub offset → offset ∉ seen
  apart : subs.Pairwise im.Apart
  comprises : ∃ named : List (List Int), named.length = subs.length ∧
    (∀ (i : Nat) sub cells, subs[i]? = some sub → named[i]? = some cells →
      im.Comprises sub cells) ∧ cells = found ++ named.flatten
  seen_iff : ∀ offset, offset ∈ seen' ↔ offset ∈ seen ∨ ∃ sub ∈ subs, im.Below sub offset

theorem flattenedAll_of_ok {levels : Nat}
    (hone : ∀ {list seen cells seen'}, im.flattenFrom levels list seen = .ok (cells, seen') →
      im.Flattened levels list seen cells seen')
    {found seen cells seen' : List Int}
    (h : subs.foldlM (addList im levels) (found, seen) = .ok (cells, seen')) :
    im.FlattenedAll levels subs found seen cells seen' := by
  induction subs generalizing found seen with
  | nil =>
    cases h
    exact ⟨nofun, nofun, .nil, ⟨[], rfl, nofun, by simp⟩, by simp⟩
  | cons sub subs ih =>
    rw [List.foldlM_cons, addList] at h
    obtain ⟨_, hadd, h⟩ := Failing.bind_eq_ok.mp h
    obtain ⟨⟨more, seen₁⟩, hsub, rfl⟩ := Failing.map_eq_ok.mp hadd
    have hhere := hone hsub
    have hrest := ih h
    obtain ⟨named, hlen, hnamed, rfl⟩ := hrest.comprises
    refine ⟨?_, ?_, ?_, ⟨more :: named, ?_, ?_, ?_⟩, ?_⟩
    · exact List.forall_mem_cons.mpr ⟨hhere.sound, hrest.sound⟩
    · refine List.forall_mem_cons.mpr ⟨hhere.fresh, fun other hother offset hbelow hm => ?_⟩
      exact hrest.fresh other hother offset hbelow ((hhere.seen_iff offset).mpr (.inl hm))
    · refine List.pairwise_cons.mpr ⟨fun other hother offset hbelow hbelow' => ?_, hrest.apart⟩
      exact hrest.fresh other hother offset hbelow' ((hhere.seen_iff offset).mpr (.inr hbelow))
    · rw [List.length_cons, List.length_cons, hlen]
    · rintro (_ | i) other cells hother hcells
      · cases hother
        cases hcells
        exact hhere.comprises
      · exact hnamed i other cells hother hcells
    · simp
    · intro offset
      simp only [hrest.seen_iff, hhere.seen_iff, or_assoc, List.mem_cons, exists_eq_or_imp]

/-- A list of cells comes to these cells, and nothing is seen behind it. -/
theorem flattened_of_slots {levels size : Nat} {seen cells : List Int}
    (hsize : list.content.slotSize? = some size)
    (hcount : im.word (list.offset + 2) = .ok cells.length)
    (hslots : Slotwise im.linked (list.offset + 4) size cells) :
    im.Flattened levels list seen cells seen where
  sound := sound_of_slotSize hsize (.cells hsize hcount hslots) levels
  fresh _ hbelow := absurd hbelow (not_below_of_slotSize hsize)
  comprises := .cells hsize hcount hslots
  seen_iff _ := (or_iff_left (not_below_of_slotSize hsize)).symm

/-- What is gone through can be followed, and comes to the cells that it comprises. -/
theorem flattened_of_ok {levels : Nat} {seen cells seen' : List Int}
    (h : im.flattenFrom levels list seen = .ok (cells, seen')) :
    im.Flattened levels list seen cells seen' := by
  induction levels generalizing list seen cells seen' with
  | zero =>
    rcases flattenFrom_eq_ok.mp h with ⟨size, hsize, hcount, hslots, rfl⟩ | ⟨n, subs, hn, -⟩
    · exact flattened_of_slots hsize hcount hslots
    · cases hn
  | succ n ih =>
    rcases flattenFrom_eq_ok.mp h with ⟨size, hsize, hcount, hslots, rfl⟩ |
      ⟨_, subs, hn, hlists, hnodup, hfresh, hfold⟩
    · exact flattened_of_slots hsize hcount hslots
    · cases hn
      have hall := flattenedAll_of_ok ih hfold
      obtain ⟨named, hlen, hnamed, rfl⟩ := hall.comprises
      -- The lists of a list are all seen before what is below the first of them is.
      have hseen {offset : Int} : offset ∈ (subs.map (·.offset)).reverse ++ seen ↔
          (∃ sub ∈ subs, sub.offset = offset) ∨ offset ∈ seen := by
        rw [List.mem_append, List.mem_reverse, List.mem_map]
      refine ⟨hlists.sound ⟨hall.sound, hnodup, fun sub hsub other hother hbelow => ?_, hall.apart⟩,
        fun offset hbelow hm => ?_, ?_, fun offset => ?_⟩
      · exact hall.fresh sub hsub _ hbelow (hseen.mpr (.inl ⟨other, hother, rfl⟩))
      · obtain ⟨sub, hsub, rfl | hbelow⟩ := hlists.below_iff.mp hbelow
        · exact hfresh sub hsub hm
        · exact hall.fresh sub hsub offset hbelow (hseen.mpr (.inr hm))
      · exact .lists hlists.content hlists.count hlists.slots hlen hnamed
      · rw [hall.seen_iff, hseen, hlists.below_iff]
        constructor
        · rintro ((⟨sub, hsub, hsame⟩ | hm) | ⟨sub, hsub, hbelow⟩)
          · exact .inr ⟨sub, hsub, .inl hsame⟩
          · exact .inl hm
          · exact .inr ⟨sub, hsub, .inr hbelow⟩
        · rintro (hm | ⟨sub, hsub, hsame | hbelow⟩)
          · exact .inl (.inr hm)
          · exact .inl (.inl ⟨sub, hsub, hsame⟩)
          · exact .inr ⟨sub, hsub, hbelow⟩

theorem foldlM_ok_of_siblings {levels : Nat}
    (hone : ∀ {list} seen, im.Sound levels list →
      (∀ offset, im.Below list offset → offset ∉ seen) →
      ∃ result, im.flattenFrom levels list seen = .ok result)
    (found : List Int) {seen : List Int} (hsound : ∀ sub ∈ subs, im.Sound levels sub)
    (hfresh : ∀ sub ∈ subs, ∀ offset, im.Below sub offset → offset ∉ seen)
    (hapart : subs.Pairwise im.Apart) :
    ∃ result, subs.foldlM (addList im levels) (found, seen) = .ok result := by
  induction subs generalizing found seen with
  | nil => exact ⟨_, rfl⟩
  | cons sub subs ih =>
    obtain ⟨hhere, hsound⟩ := List.forall_mem_cons.mp hsound
    obtain ⟨hnew, hfresh⟩ := List.forall_mem_cons.mp hfresh
    obtain ⟨hothers, hapart⟩ := List.pairwise_cons.mp hapart
    obtain ⟨⟨more, seen'⟩, hflat⟩ := hone seen hhere hnew
    have hfresh' : ∀ other ∈ subs, ∀ offset, im.Below other offset → offset ∉ seen' := by
      intro other hother offset hbelow hm
      rcases ((flattened_of_ok hflat).seen_iff offset).mp hm with hm | hbelow'
      · exact hfresh other hother offset hbelow hm
      · exact hothers other hother offset hbelow' hbelow
    obtain ⟨result, hrest⟩ := ih (found ++ more) hsound hfresh' hapart
    refine ⟨result, ?_⟩
    rw [List.foldlM_cons, addList, hflat]
    exact hrest

/-- What can be followed is gone through, unless a list below it was seen before. -/
theorem flattenFrom_ok_of_sound {levels : Nat} (seen : List Int) (hsound : im.Sound levels list)
    (hfresh : ∀ offset, im.Below list offset → offset ∉ seen) :
    ∃ result, im.flattenFrom levels list seen = .ok result := by
  induction levels generalizing list seen with
  | zero =>
    cases hsound.legible (.here list) with
    | cells hsize hcount hslots =>
      exact ⟨_, flattenFrom_eq_ok.mpr (.inl ⟨_, hsize, hcount, hslots, rfl⟩)⟩
    | lists hcontent => exact absurd (hsound.shallow (.here list) hcontent) (Nat.not_lt_zero _)
  | succ n ih =>
    cases hsound.legible (.here list) with
    | cells hsize hcount hslots =>
      exact ⟨_, flattenFrom_eq_ok.mpr (.inl ⟨_, hsize, hcount, hslots, rfl⟩)⟩
    | @lists subs hcontent hcount hslots =>
      have hlists : im.ListOfLists list subs := ⟨hcontent, hcount, hslots⟩
      have hsubs := hlists.siblings hsound
      have hnew {sub : ListRecord} (hsub : sub ∈ subs) {offset : Int}
          (hoffset : sub.offset = offset ∨ im.Below sub offset) : offset ∉ seen :=
        hfresh offset (hlists.below_iff.mpr ⟨sub, hsub, hoffset⟩)
      have hfresh' : ∀ sub ∈ subs, ∀ offset, im.Below sub offset →
          offset ∉ (subs.map (·.offset)).reverse ++ seen := by
        intro sub hsub offset hbelow hm
        rw [List.mem_append, List.mem_reverse, List.mem_map] at hm
        rcases hm with ⟨other, hother, rfl⟩ | hm
        · exact hsubs.notBelow sub hsub other hother hbelow
        · exact hnew hsub (.inr hbelow) hm
      obtain ⟨⟨cells, seen'⟩, hfold⟩ :=
        foldlM_ok_of_siblings ih [] hsubs.sound hfresh' hsubs.apart
      exact ⟨_, flattenFrom_eq_ok.mpr (.inr ⟨n, subs, rfl, hlists, hsubs.nodup,
        fun sub hsub => hnew hsub (.inl rfl), hfold⟩)⟩

/-! ## What a list comes to -/

/-- A list comprises its cells in one order only. -/
theorem Comprises.unique {cells cells' : List Int} (h : im.Comprises list cells)
    (h' : im.Comprises list cells') : cells = cells' := by
  induction h generalizing cells' with
  | cells hsize hcount hslots =>
    cases h' with
    | cells hsize' hcount' hslots' =>
      cases hsize.symm.trans hsize'
      exact hslots.unique hslots' (Except.ok.inj (hcount.symm.trans hcount'))
    | lists hcontent =>
      rw [hcontent] at hsize
      cases hsize
  | @lists list subs named hcontent hcount hslots hlen _ ih =>
    cases h' with
    | cells hsize =>
      rw [hcontent] at hsize
      cases hsize
    | @lists _ subs' named' _ hcount' hslots' hlen' hnamed' =>
      have hlength := Except.ok.inj (hcount.symm.trans hcount')
      obtain rfl := hslots.unique hslots' hlength
      have hsame : named = named' := by
        refine List.ext_getElem (hlen.trans hlen'.symm) fun i hi hi' => ?_
        have hget := List.getElem?_eq_getElem (hlen ▸ hi)
        exact ih i _ _ hget (List.getElem?_eq_getElem hi)
          (hnamed' i _ _ hget (List.getElem?_eq_getElem hi'))
      rw [hsame]

/-- **A list that can be followed is gone through**, and no other is. -/
theorem flatten_ok_iff : (∃ cells, im.flatten list = .ok cells) ↔ im.Followable list := by
  rw [followable_iff]
  constructor
  · rintro ⟨cells, h⟩
    obtain ⟨⟨cells, seen⟩, hflat, rfl⟩ := Failing.map_eq_ok.mp h
    have hflattened := flattened_of_ok hflat
    exact ⟨hflattened.sound, fun hbelow =>
      hflattened.fresh _ hbelow (List.mem_singleton.mpr rfl)⟩
  · rintro ⟨hsound, hnot⟩
    obtain ⟨⟨cells, seen⟩, hflat⟩ := flattenFrom_ok_of_sound [list.offset] hsound
      fun offset hbelow hm => hnot (List.mem_singleton.mp hm ▸ hbelow)
    exact ⟨cells, Failing.map_eq_ok.mpr ⟨_, hflat, rfl⟩⟩

/-- **What it comes to are the cells that it comprises.** -/
theorem comprises_of_flatten {cells : List Int} (h : im.flatten list = .ok cells) :
    im.Comprises list cells := by
  obtain ⟨⟨cells, seen⟩, hflat, rfl⟩ := Failing.map_eq_ok.mp h
  exact (flattened_of_ok hflat).comprises

theorem flatten_of_comprises {cells : List Int} (h : im.Followable list)
    (hcells : im.Comprises list cells) : im.flatten list = .ok cells := by
  obtain ⟨cells', hflat⟩ := flatten_ok_iff.mpr h
  rw [hflat, hcells.unique (comprises_of_flatten hflat)]

theorem flatten_error_of_not_followable (h : ¬im.Followable list) :
    ∃ fault, im.flatten list = .error fault := by
  cases hflat : im.flatten list with
  | ok cells => exact absurd (flatten_ok_iff.mp ⟨cells, hflat⟩) h
  | error fault => exact ⟨fault, rfl⟩

end Image

/-! ## Subkeys -/

namespace HiveFile

variable {h : HiveFile} {n : Node} {list : ListRecord}

theorem HasList.subkeyCells (hl : h.HasList n list) :
    ∃ record, h.image.recordOfHandle .node n.handle = .ok record ∧
      h.image.subkeyCells record = h.image.flatten list := by
  obtain ⟨record, count, hrecord, hcount, hne, hlist⟩ := hl
  refine ⟨record, hrecord, ?_⟩
  unfold Image.subkeyCells
  rw [hcount, hlist]
  exact if_neg hne

theorem HasList.children_of_ok (hl : h.HasList n list) {cells : List Int}
    (hflat : h.image.flatten list = .ok cells) : h.children n = .ok (cells.map h.subkeyAt) := by
  obtain ⟨record, hrecord, hcells⟩ := hl.subkeyCells
  exact h.children_eq_ok.mpr ⟨record, cells, hrecord, hcells.trans hflat, rfl⟩

theorem HasList.children_of_error (hl : h.HasList n list) {fault : Fault}
    (hflat : h.image.flatten list = .error fault) :
    ∃ fault, h.children n = .error fault ∧ fault.isMalformed = true := by
  obtain ⟨record, hrecord, hcells⟩ := hl.subkeyCells
  have hread := h.image.subkeyCells_ofReading record fault (hcells.trans hflat)
  refine ⟨listFault .subkeys n.handle fault, ?_, isMalformed_listFault hread.spoils⟩
  rw [children, hrecord]
  simp only [bind, Except.bind, hcells, hflat, Failing.mapError_error]

end HiveFile

namespace Image

/-- **A subkey list is followed wherever it can be.** Going through any list of any image ends. It
gives cells exactly if every path of entries from the list can be taken to its end, and then those
that the list comprises; the subkeys of a node with this list are then the keys in these cells. If
some path cannot be taken there are no cells at all, and no subkeys but a malformed list. -/
theorem flatten_follows (im : Image) (list : ListRecord) :
    EndsWithin im.listTurn (.of list) (2 * im.size + 2) (im.flatten list) ∧
      ((∃ cells, im.flatten list = .ok cells) ↔ im.Followable list) ∧
      (∀ cells, im.flatten list = .ok cells ↔ im.Followable list ∧ im.Comprises list cells) ∧
      ∀ (h : HiveFile) (n : Node), h.image = im → h.HasList n list →
        (∀ cells, im.Followable list → im.Comprises list cells →
          h.children n = .ok (cells.map h.subkeyAt)) ∧
        (¬im.Followable list →
          ∃ fault, h.children n = .error fault ∧ fault.isMalformed = true) := by
  refine ⟨lists_end im list, flatten_ok_iff, fun cells => ⟨fun hflat => ?_, fun hcells => ?_⟩, ?_⟩
  · exact ⟨flatten_ok_iff.mp ⟨cells, hflat⟩, comprises_of_flatten hflat⟩
  · exact flatten_of_comprises hcells.1 hcells.2
  · rintro h n rfl hl
    refine ⟨fun cells hfollow hcells => ?_, fun hnot => ?_⟩
    · exact hl.children_of_ok (flatten_of_comprises hfollow hcells)
    · obtain ⟨fault, hflat⟩ := flatten_error_of_not_followable hnot
      exact hl.children_of_error hflat

end Image

/-! ## Lists that were laid out -/

namespace Layout

variable {im : Image}

/-- Lists that were laid out can be followed, and comprise the cells of the keys that they name. -/
theorem follows_listAt (hb : Binned im) {list : KeyList Nat} (hl : ListAt im list) :
    im.Followable list.found ∧ im.Comprises list.found (cellsOf list.named) :=
  have hflat := flatten_eq hb hl.listed hl.depth hl.nodup
  ⟨Image.flatten_ok_iff.mp ⟨_, hflat⟩, Image.comprises_of_flatten hflat⟩

/-- A key that was laid out with subkeys has the list that names them. -/
theorem hasList_of_stands (hb : Binned im) {cell root : Nat} {head rootHead : KeyHead}
    {values : List (Nat × ValueDraft)} {list : KeyList Nat}
    (hs : (Key.key cell head values (some list)).Stands im)
    (hf : (Key.key cell head values (some list)).Fits) (hne : list.named.length ≠ 0)
    (path : String) (tracing : Bool) :
    (opened path im tracing root rootHead).HasList (nodeOf cell head) list.found := by
  obtain ⟨slots, -, hcell⟩ := hs.keyAt.cell
  have hlist := (listAt_of_stands hs hf list rfl).listed.cellAt
  exact ⟨_, _, keyRecordOfHandle hcell, subkeyCount_eq hcell hs.keyAt.count, hne,
    subkeyList_eq hb hlist (subkeyDistance_eq hcell hlist.distance_lt)⟩

/-- The root of the image with these keys has a list of lists that can be followed. -/
theorem hasList_branchedTree : ∃ (h : HiveFile) (n : Node) (list : ListRecord) (cells : List Int),
    h.image = Layout.image 7 branchedTree ∧ h.HasList n list ∧ list.content = .listOfLists ∧
      cells.length = 2 ∧ h.image.Followable list ∧ h.image.Comprises list cells := by
  obtain ⟨cells, hrun, hleft⟩ := Key.draws fits_branchedTree []
  obtain ⟨cell, head, values, list, hkey, hcontent, hnamed⟩ : ∃ cell head values list,
      (branchedTree.draw.run []).1 = .key cell head values (some list) ∧
        list.content = .listOfLists ∧ list.named.length = 2 := ⟨_, _, _, _, rfl, rfl, rfl⟩
  rw [List.nil_append] at hrun hleft
  have hsize : binHeaderSize + (branchedTree.draw.run []).2.length ≤ 2 ^ 32 := by decide +kernel
  have him : Layout.image 7 branchedTree =
      imageOf 7 (branchedTree.draw.run []).1.cell cells := by
    rw [← hrun]
    rfl
  rw [hrun] at hsize
  have htree := hleft _ (contains_imageOf 7 (branchedTree.draw.run []).1.cell hsize)
  have hheaded := headed_imageOf 7 cells htree.stands.cell_lt
  rw [← him, hkey] at htree hheaded
  have hlist := listAt_of_stands htree.stands htree.fits list rfl
  obtain ⟨hfollow, hcomprises⟩ := follows_listAt hheaded.binned hlist
  exact ⟨opened "hive" _ false cell head, _, list.found, _, rfl,
    hasList_of_stands hheaded.binned htree.stands htree.fits (by omega) "hive" false, hcontent,
    by rw [cellsOf, List.length_map, hnamed], hfollow, hcomprises⟩

theorem flatten_follows_branchedTree :
    ∃ (h : HiveFile) (n : Node) (list : ListRecord) (cells : List Int),
      h.image = Layout.image 7 branchedTree ∧ h.HasList n list ∧ list.content = .listOfLists ∧
        cells.length = 2 ∧ h.image.Followable list ∧ h.image.Comprises list cells ∧
        h.children n = .ok (cells.map h.subkeyAt) := by
  obtain ⟨h, n, list, cells, him, hlist, hcontent, hlength, hfollow, hcomprises⟩ :=
    hasList_branchedTree
  exact ⟨h, n, list, cells, him, hlist, hcontent, hlength, hfollow, hcomprises,
    ((h.image.flatten_follows list).2.2.2 h n rfl hlist).1 cells hfollow hcomprises⟩

end Layout

end HiveDump
