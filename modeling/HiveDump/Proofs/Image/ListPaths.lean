import HiveDump.Image.ListGraph
import HiveDump.Proofs.Image.Loops

/-!
# Paths through subkey lists

The lists that a list of lists is a list of (`ListOfLists`) are read slot by slot, and a path from
it goes on from one of them. So every path from it can be taken if every path from each of them can
(`Sound`), and what is below one of them is neither one of them nor below another (`Siblings`).

Results:
* `slots_eq_ok`, `sublists_eq_ok`: what slots are read as;
* `followable_iff`: a list that can be followed is not below itself;
* `sound_of_slotSize`: lists of cells lead nowhere;
* **`ListOfLists.siblings`**, **`ListOfLists.sound`**: lists of lists, from the lists they name.
-/

namespace HiveDump

/-! ## Slots -/

section Slotwise

variable {ε α : Type} {read : Int → Except ε α} {slot : Int} {size : Nat} {a : α} {as as' : List α}

theorem slotwise_nil : Slotwise read slot size [] :=
  nofun

theorem slotwise_cons :
    Slotwise read slot size (a :: as) ↔
      read slot = .ok a ∧ Slotwise read (slot + size) size as := by
  have hplace (i : Nat) : slot + size * (i + 1 : Nat) = slot + size + size * i := by
    rw [Int.natCast_add, Int.mul_add, Int.natCast_one, Int.mul_one]
    omega
  constructor
  · intro h
    refine ⟨by simpa using h 0 a rfl, fun i b hb => ?_⟩
    rw [← hplace]
    exact h (i + 1) b hb
  · rintro ⟨hread, hrest⟩ (_ | i) b hb
    · obtain rfl := Option.some.inj hb
      simpa using hread
    · rw [hplace]
      exact hrest i b hb

/-- Slots are read in one way. -/
theorem Slotwise.unique (h : Slotwise read slot size as) (h' : Slotwise read slot size as')
    (hlen : as.length = as'.length) : as = as' := by
  refine List.ext_getElem hlen fun i hi hi' => ?_
  have hread := h i as[i] (List.getElem?_eq_getElem hi)
  have hread' := h' i as'[i] (List.getElem?_eq_getElem hi')
  exact Except.ok.inj (hread.symm.trans hread')

end Slotwise

namespace Image

variable {im : Image} {list sub reached : ListRecord} {subs : List ListRecord}

/-- A list of cells is read slot by slot. -/
theorem slots_eq_ok {size count : Nat} {slot : Int} {cells : List Int} :
    im.slots size slot count = .ok cells ↔
      cells.length = count ∧ Slotwise im.linked slot size cells := by
  induction count generalizing slot cells with
  | zero =>
    rw [slots, List.length_eq_zero_iff]
    constructor
    · intro h
      cases h
      exact ⟨rfl, slotwise_nil⟩
    · rintro ⟨rfl, -⟩
      rfl
  | succ n ih =>
    simp only [slots_succ, Failing.bind_eq_ok, Failing.map_eq_ok, ih]
    constructor
    · rintro ⟨cell, hcell, rest, ⟨rfl, hrest⟩, rfl⟩
      exact ⟨rfl, slotwise_cons.mpr ⟨hcell, hrest⟩⟩
    · rintro ⟨hlen, hcells⟩
      obtain ⟨cell, rest, rfl⟩ := List.exists_cons_of_length_eq_add_one hlen
      obtain ⟨hcell, hrest⟩ := slotwise_cons.mp hcells
      exact ⟨cell, hcell, rest, ⟨Nat.succ.inj hlen, hrest⟩, rfl⟩

/-- A list that a slot names is new if it was not seen before. -/
theorem newList_eq_ok_iff {place slot : Int} {seen : List Int} :
    im.newList place seen slot = .ok sub ↔ im.listAt slot = .ok sub ∧ sub.offset ∉ seen := by
  have hnew : im.newList place seen slot = ((im.listAt slot).mapError .record >>= fun sub =>
      if sub.offset ∈ seen then .error (.listLoop place sub.offset) else .ok sub) := by
    rw [newList, listAt]
    cases (do
      let c ← im.cell (← im.linked slot)
      return ⟨c.content, ← im.child c⟩ : Except RecordFault ListRecord) with
    | error fault => rfl
    | ok sub =>
      simp only [Failing.mapError_ok, bind, Except.bind]
      split <;> rfl
  rw [hnew, Failing.bind_eq_ok]
  constructor
  · rintro ⟨sub', hsub, h⟩
    split at h
    · cases h
    · cases h
      exact ⟨Failing.mapError_eq_ok.mp hsub, ‹_›⟩
  · rintro ⟨hsub, hfresh⟩
    exact ⟨sub, Failing.mapError_eq_ok.mpr hsub, if_neg hfresh⟩

/-- The lists that slots name, if none was seen before and no two are the same. -/
theorem sublists_eq_ok {place slot : Int} {count : Nat} {seen seen' : List Int} :
    im.sublists place slot count seen = .ok (subs, seen') ↔
      subs.length = count ∧ Slotwise im.listAt slot 4 subs ∧ (subs.map (·.offset)).Nodup ∧
        (∀ sub ∈ subs, sub.offset ∉ seen) ∧ seen' = (subs.map (·.offset)).reverse ++ seen := by
  induction count generalizing slot seen seen' subs with
  | zero =>
    rw [sublists, List.length_eq_zero_iff]
    constructor
    · intro h
      cases h
      exact ⟨rfl, slotwise_nil, List.nodup_nil, by simp, rfl⟩
    · rintro ⟨rfl, -, -, -, rfl⟩
      rfl
  | succ n ih =>
    simp only [sublists_succ, Failing.bind_eq_ok, Failing.map_eq_ok, newList_eq_ok_iff, Prod.exists,
      ih, Prod.mk.injEq]
    constructor
    · rintro ⟨sub, ⟨hsub, hfresh⟩, rest, last, ⟨rfl, hrest, hnodup, hnew, rfl⟩, rfl, rfl⟩
      simp only [List.mem_cons, not_or] at hnew
      refine ⟨rfl, slotwise_cons.mpr ⟨hsub, hrest⟩, ?_, ?_, by simp⟩
      · rw [List.map_cons, List.nodup_cons, List.mem_map]
        refine ⟨?_, hnodup⟩
        rintro ⟨other, hother, hsame⟩
        exact (hnew other hother).1 hsame
      · exact List.forall_mem_cons.mpr ⟨hfresh, fun other hother => (hnew other hother).2⟩
    · rintro ⟨hlen, hsubs, hnodup, hnew, rfl⟩
      obtain ⟨sub, rest, rfl⟩ := List.exists_cons_of_length_eq_add_one hlen
      obtain ⟨hsub, hrest⟩ := slotwise_cons.mp hsubs
      obtain ⟨hfresh, hnew⟩ := List.forall_mem_cons.mp hnew
      rw [List.map_cons, List.nodup_cons, List.mem_map] at hnodup
      refine ⟨sub, ⟨hsub, hfresh⟩, rest, _, ⟨Nat.succ.inj hlen, hrest, hnodup.2, ?_, rfl⟩, rfl,
        by simp⟩
      intro other hother
      rw [List.mem_cons, not_or]
      exact ⟨fun hsame => hnodup.1 ⟨other, hother, hsame⟩, hnew other hother⟩

/-! ## Paths -/

theorem leads_nil : im.Leads list [] reached ↔ reached = list := by
  constructor
  · intro h
    cases h
    rfl
  · rintro rfl
    exact .here _

theorem leads_cons {i : Nat} {path : List Nat} :
    im.Leads list (i :: path) reached ↔ ∃ sub, im.Links list i sub ∧ im.Leads sub path reached := by
  constructor
  · intro h
    cases h with
    | through hlink hlead => exact ⟨_, hlink, hlead⟩
  · rintro ⟨sub, hlink, hlead⟩
    exact .through hlink hlead

/-- Whether a list at this offset can be reached from a list by a path that is not empty. -/
def Below (im : Image) (list : ListRecord) (offset : Int) : Prop :=
  ∃ path reached, path ≠ [] ∧ im.Leads list path reached ∧ reached.offset = offset

/-- Whether two lists reach no list at the same offset. -/
def Apart (im : Image) (list list' : ListRecord) : Prop :=
  ∀ offset, im.Below list offset → ¬im.Below list' offset

/-- Whether every path from a list can be taken if lists of lists nest so deep only. The list itself
may be reached again. -/
structure Sound (im : Image) (levels : Nat) (list : ListRecord) : Prop where
  legible : ∀ {path reached}, im.Leads list path reached → im.Legible reached
  apart : ∀ {path path' reached reached'}, path ≠ [] → path' ≠ [] →
    im.Leads list path reached → im.Leads list path' reached' →
    reached.offset = reached'.offset → path = path'
  shallow : ∀ {path reached}, im.Leads list path reached → reached.content = .listOfLists →
    path.length < levels

/-- A list can be followed if all below it can be, and it is not below itself. -/
theorem followable_iff :
    im.Followable list ↔ im.Sound maxListDepth list ∧ ¬im.Below list list.offset := by
  constructor
  · intro h
    refine ⟨⟨h.legible, fun _ _ => h.apart, h.shallow⟩, ?_⟩
    rintro ⟨path, reached, hne, hlead, hsame⟩
    exact hne (h.apart hlead (.here list) hsame)
  · rintro ⟨hsound, hnot⟩
    refine ⟨hsound.legible, fun {path path' reached reached'} hlead hlead' hsame => ?_,
      hsound.shallow⟩
    by_cases hpath : path = []
    · by_cases hpath' : path' = []
      · rw [hpath, hpath']
      · rw [hpath, leads_nil] at hlead
        exact absurd ⟨path', reached', hpath', hlead', hlead ▸ hsame.symm⟩ hnot
    · by_cases hpath' : path' = []
      · rw [hpath', leads_nil] at hlead'
        exact absurd ⟨path, reached, hpath, hlead, hlead' ▸ hsame⟩ hnot
      · exact hsound.apart hpath hpath' hlead hlead' hsame

/-! ## Lists of cells -/

section Cells

variable {size : Nat} {cells : List Int} (hsize : list.content.slotSize? = some size)

include hsize

/-- A list of cells leads nowhere. -/
theorem not_links_of_slotSize {i : Nat} : ¬im.Links list i sub := by
  intro h
  rw [h.content] at hsize
  cases hsize

theorem leads_of_slotSize {path : List Nat} (h : im.Leads list path reached) :
    path = [] ∧ reached = list := by
  cases h with
  | here => exact ⟨rfl, rfl⟩
  | through hlink => exact absurd hlink (not_links_of_slotSize hsize)

theorem not_below_of_slotSize {offset : Int} : ¬im.Below list offset := by
  rintro ⟨path, reached, hne, hlead, -⟩
  exact hne (leads_of_slotSize hsize hlead).1

theorem sound_of_slotSize (hlegible : im.Legible list) (levels : Nat) : im.Sound levels list := by
  refine ⟨fun hlead => ?_, fun hne _ hlead => ?_, fun hlead hcontent => ?_⟩
  · exact (leads_of_slotSize hsize hlead).2 ▸ hlegible
  · exact absurd (leads_of_slotSize hsize hlead).1 hne
  · rw [(leads_of_slotSize hsize hlead).2] at hcontent
    rw [hcontent] at hsize
    cases hsize

end Cells

/-! ## Lists of lists -/

/-- Whether a list is a list of these lists. -/
structure ListOfLists (im : Image) (list : ListRecord) (subs : List ListRecord) : Prop where
  content : list.content = .listOfLists
  count : im.word (list.offset + 2) = .ok subs.length
  slots : Slotwise im.listAt (list.offset + 4) 4 subs

/-- The entries of a list of lists lead to the lists that it is a list of. -/
theorem ListOfLists.links_iff (h : im.ListOfLists list subs) {i : Nat} :
    im.Links list i sub ↔ subs[i]? = some sub := by
  constructor
  · rintro ⟨-, ⟨count, hcount, hlt⟩, hleads⟩
    cases h.count.symm.trans hcount
    have hget := List.getElem?_eq_getElem hlt
    have hread := h.slots i subs[i] hget
    rw [hget, Except.ok.inj (hread.symm.trans hleads)]
  · intro hget
    exact ⟨h.content, ⟨_, h.count, (List.getElem?_eq_some_iff.mp hget).1⟩, h.slots i sub hget⟩

theorem ListOfLists.below_iff (h : im.ListOfLists list subs) {offset : Int} :
    im.Below list offset ↔ ∃ sub ∈ subs, sub.offset = offset ∨ im.Below sub offset := by
  constructor
  · rintro ⟨_ | ⟨i, path⟩, reached, hne, hlead, hsame⟩
    · exact absurd rfl hne
    · obtain ⟨sub, hlink, hlead⟩ := leads_cons.mp hlead
      refine ⟨sub, List.mem_of_getElem? (h.links_iff.mp hlink), ?_⟩
      by_cases hpath : path = []
      · rw [hpath, leads_nil] at hlead
        exact .inl (hlead ▸ hsame)
      · exact .inr ⟨path, reached, hpath, hlead, hsame⟩
  · rintro ⟨sub, hsub, hoffset⟩
    obtain ⟨i, hget⟩ := List.mem_iff_getElem?.mp hsub
    have hlink := h.links_iff.mpr hget
    rcases hoffset with hsame | ⟨path, reached, -, hlead, hsame⟩
    · exact ⟨[i], sub, List.cons_ne_nil _ _, .through hlink (.here sub), hsame⟩
    · exact ⟨i :: path, reached, List.cons_ne_nil _ _, .through hlink hlead, hsame⟩

/-- Whether lists at one level can be followed side by side. -/
structure Siblings (im : Image) (levels : Nat) (subs : List ListRecord) : Prop where
  sound : ∀ sub ∈ subs, im.Sound levels sub
  nodup : (subs.map (·.offset)).Nodup
  notBelow : ∀ sub ∈ subs, ∀ other ∈ subs, ¬im.Below sub other.offset
  apart : subs.Pairwise im.Apart

/-- What can be followed below a list can be followed side by side. -/
theorem ListOfLists.siblings {levels : Nat} (h : im.ListOfLists list subs)
    (hsound : im.Sound (levels + 1) list) : im.Siblings levels subs := by
  have hthrough {i : Nat} {sub reached : ListRecord} {path : List Nat} (hget : subs[i]? = some sub)
      (hlead : im.Leads sub path reached) : im.Leads list (i :: path) reached :=
    .through (h.links_iff.mpr hget) hlead
  have hsame {i j : Nat} {sub sub' reached reached' : ListRecord} {path path' : List Nat}
      (hi : subs[i]? = some sub) (hj : subs[j]? = some sub') (hlead : im.Leads sub path reached)
      (hlead' : im.Leads sub' path' reached') (heq : reached.offset = reached'.offset) :
      i :: path = j :: path' :=
    hsound.apart (List.cons_ne_nil _ _) (List.cons_ne_nil _ _) (hthrough hi hlead)
      (hthrough hj hlead') heq
  refine ⟨fun sub hsub => ?_, ?_, fun sub hsub other hother => ?_, ?_⟩
  · obtain ⟨i, hi⟩ := List.mem_iff_getElem?.mp hsub
    refine ⟨fun hlead => hsound.legible (hthrough hi hlead), fun _ _ hlead hlead' heq => ?_,
      fun hlead hcontent => ?_⟩
    · exact (List.cons.inj (hsame hi hi hlead hlead' heq)).2
    · exact Nat.lt_of_succ_lt_succ (hsound.shallow (hthrough hi hlead) hcontent)
  · rw [List.Nodup, List.pairwise_map, List.pairwise_iff_getElem]
    intro i j hi hj hlt heq
    have hpath := hsame (List.getElem?_eq_getElem hi) (List.getElem?_eq_getElem hj) (.here _)
      (.here _) heq
    exact absurd (List.cons.inj hpath).1 (Nat.ne_of_lt hlt)
  · rintro ⟨path, reached, hne, hlead, heq⟩
    obtain ⟨i, hi⟩ := List.mem_iff_getElem?.mp hsub
    obtain ⟨j, hj⟩ := List.mem_iff_getElem?.mp hother
    exact hne (List.cons.inj (hsame hi hj hlead (.here other) heq)).2
  · rw [List.pairwise_iff_getElem]
    rintro i j hi hj hlt offset ⟨path, reached, -, hlead, rfl⟩ ⟨path', reached', -, hlead', heq⟩
    have hpath := hsame (List.getElem?_eq_getElem hi) (List.getElem?_eq_getElem hj) hlead hlead'
      heq.symm
    exact absurd (List.cons.inj hpath).1 (Nat.ne_of_lt hlt)

/-- What is below one of several lists is below no other. -/
theorem Siblings.index_eq {levels i j : Nat} {sub' : ListRecord} {offset : Int}
    (h : im.Siblings levels subs) (hi : subs[i]? = some sub) (hj : subs[j]? = some sub')
    (hbelow : im.Below sub offset) (hbelow' : im.Below sub' offset) : i = j := by
  obtain ⟨hlt, rfl⟩ := List.getElem?_eq_some_iff.mp hi
  obtain ⟨hlt', rfl⟩ := List.getElem?_eq_some_iff.mp hj
  have hapart := List.pairwise_iff_getElem.mp h.apart
  rcases Nat.lt_trichotomy i j with hij | hij | hij
  · exact absurd hbelow' (hapart i j hlt hlt' hij offset hbelow)
  · exact hij
  · exact absurd hbelow (hapart j i hlt' hlt hij offset hbelow')

/-- Paths from several lists meet only if they are the same. -/
theorem Siblings.paths_eq {levels i j : Nat} {path path' : List Nat}
    {sub' reached reached' : ListRecord} (h : im.Siblings levels subs) (hi : subs[i]? = some sub)
    (hj : subs[j]? = some sub') (hlead : im.Leads sub path reached)
    (hlead' : im.Leads sub' path' reached') (hsame : reached.offset = reached'.offset) :
    i :: path = j :: path' := by
  have hsub := List.mem_of_getElem? hi
  have hsub' := List.mem_of_getElem? hj
  by_cases hpath : path = []
  · rw [hpath, leads_nil] at hlead
    by_cases hpath' : path' = []
    · rw [hpath', leads_nil] at hlead'
      have hoffsets : (subs.map (·.offset))[i]? = (subs.map (·.offset))[j]? := by
        rw [List.getElem?_map, List.getElem?_map, hi, hj, Option.map_some, Option.map_some, ← hlead,
          ← hlead', hsame]
      have hlt : i < (subs.map (·.offset)).length := by
        rw [List.length_map]
        exact (List.getElem?_eq_some_iff.mp hi).1
      rw [(List.getElem?_inj hlt h.nodup).mp hoffsets, hpath, hpath']
    · have hbelow : im.Below sub' sub.offset :=
        ⟨path', reached', hpath', hlead', hlead ▸ hsame.symm⟩
      exact absurd hbelow (h.notBelow sub' hsub' sub hsub)
  · by_cases hpath' : path' = []
    · rw [hpath', leads_nil] at hlead'
      have hbelow : im.Below sub sub'.offset := ⟨path, reached, hpath, hlead, hlead' ▸ hsame⟩
      exact absurd hbelow (h.notBelow sub hsub sub' hsub')
    · have hij : i = j := h.index_eq hi hj ⟨path, reached, hpath, hlead, hsame⟩
        ⟨path', reached', hpath', hlead', rfl⟩
      subst hij
      obtain rfl := Option.some.inj (hi.symm.trans hj)
      rw [(h.sound sub hsub).apart hpath hpath' hlead hlead' hsame]

/-- What can be followed side by side can be followed below a list. -/
theorem ListOfLists.sound {levels : Nat} (h : im.ListOfLists list subs)
    (hsubs : im.Siblings levels subs) : im.Sound (levels + 1) list := by
  have hnamed {i : Nat} {path : List Nat} {reached : ListRecord}
      (hlead : im.Leads list (i :: path) reached) :
      ∃ sub, subs[i]? = some sub ∧ sub ∈ subs ∧ im.Leads sub path reached := by
    obtain ⟨sub, hlink, hlead⟩ := leads_cons.mp hlead
    have hget := h.links_iff.mp hlink
    exact ⟨sub, hget, List.mem_of_getElem? hget, hlead⟩
  refine ⟨fun {path reached} hlead => ?_, fun {path path' reached reached'} hne hne' hlead hlead'
    heq => ?_, fun {path reached} hlead hcontent => ?_⟩
  · cases path with
    | nil =>
      rw [leads_nil.mp hlead]
      exact .lists h.content h.count h.slots
    | cons i path =>
      obtain ⟨sub, -, hsub, hlead⟩ := hnamed hlead
      exact (hsubs.sound sub hsub).legible hlead
  · cases path with
    | nil => exact absurd rfl hne
    | cons i path =>
      cases path' with
      | nil => exact absurd rfl hne'
      | cons j path' =>
        obtain ⟨sub, hi, -, hlead⟩ := hnamed hlead
        obtain ⟨sub', hj, -, hlead'⟩ := hnamed hlead'
        exact hsubs.paths_eq hi hj hlead hlead' heq
  · cases path with
    | nil => exact Nat.succ_pos _
    | cons i path =>
      obtain ⟨sub, -, hsub, hlead⟩ := hnamed hlead
      exact Nat.succ_lt_succ ((hsubs.sound sub hsub).shallow hlead hcontent)

end Image

end HiveDump
