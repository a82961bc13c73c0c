import HiveDump.Proofs.Image.Cells

/-!
# Subkey lists that were laid out

A list that was laid out is flattened to the cells of the keys that it names, directly or through
other lists. Flattening keeps the lists it has seen; a list that was laid out brings in only the
lists below it (`KeyList.inner`), so lists in different cells never collide.

Results:
* `slots_eq`: the slots of a list are read as the distances that were written;
* `flattenFrom_slots`, `flattenFrom_lists`: a list of keys, and a list of lists;
* **`flatten_eq`**: a list gives the cells of the keys it names, in order.
-/

namespace HiveDump.Layout

variable {im : Image} {α : Type}

/-! ## Lists of lists -/

mutual

/-- The labels of the lists below a list. -/
def KeyList.inner : KeyList α → List α
  | .keys _ _ _ => []
  | .lists _ lists => lists.map KeyList.cell ++ belowAll lists

/-- The labels of the lists below any of these. -/
def belowAll : List (KeyList α) → List α
  | [] => []
  | list :: lists => list.inner ++ belowAll lists

end

mutual

/-- How deep lists of lists nest in a list. -/
def KeyList.depth : KeyList α → Nat
  | .keys _ _ _ => 0
  | .lists _ lists => depthAll lists + 1

/-- How deep lists of lists nest in any of these. -/
def depthAll : List (KeyList α) → Nat
  | [] => 0
  | list :: lists => max list.depth (depthAll lists)

end

/-! ## Records -/

/-- What the letters of a kind of list say. -/
def KeyListKind.content : KeyListKind → Content
  | leaf => .record .leafList
  | hash => .record .hashList
  | index => .indexList

/-- What the letters of a list say. -/
def KeyList.content : KeyList α → Content
  | .keys _ kind _ => kind.content
  | .lists _ _ => .listOfLists

/-- The record of a list. -/
def KeyList.bytes : KeyList Nat → Bytes
  | .keys _ kind named => kind.record (named.map Key.cell)
  | .lists _ below => listsRecord (below.map KeyList.cell)

/-- Where the record of a list in a cell starts. -/
def recordPlace (distance : Nat) : Int :=
  ((place distance + 4 : Nat) : Int)

theorem recordPlace_inj {a b : Nat} (h : recordPlace a = recordPlace b) : a = b := by
  unfold recordPlace place at h
  omega

/-- A list as it is found in an image. -/
def KeyList.found (list : KeyList Nat) : ListRecord :=
  ⟨recordPlace list.cell, list.content⟩

theorem length_letters (kind : KeyListKind) : kind.letters.length = 2 := by
  cases kind <;> rfl

theorem ofLetters_letters (kind : KeyListKind) :
    Content.ofLetters kind.letters = kind.content := by
  cases kind <;> decide

theorem take_bytes (list : KeyList Nat) :
    Content.ofLetters (list.bytes.take 2) = list.content := by
  cases list with
  | keys cell kind keys =>
    rw [KeyList.bytes, KeyListKind.record, List.append_assoc, take_field (length_letters kind)]
    exact ofLetters_letters kind
  | lists cell lists =>
    rw [KeyList.bytes, listsRecord, List.append_assoc, take_field (w := 2) rfl]
    rfl

theorem two_le_length_bytes (list : KeyList Nat) : 2 ≤ list.bytes.length := by
  cases list with
  | keys cell kind keys =>
    rw [KeyList.bytes, KeyListKind.record, List.append_assoc, List.length_append, length_letters]
    omega
  | lists cell lists =>
    rw [KeyList.bytes, listsRecord, List.append_assoc, List.length_append]
    exact Nat.le_add_right 2 _

theorem content_ne_security (list : KeyList Nat) : list.content ≠ .security := by
  cases list with
  | keys cell kind keys => cases kind <;> simp [KeyList.content, KeyListKind.content]
  | lists cell lists => simp [KeyList.content]

/-- A list that was laid out is found by its letters. -/
theorem child_of_cellAt {list : KeyList Nat} (h : CellAt im list.cell list.bytes) :
    im.child ⟨place list.cell, -(cellSize list.bytes.length : Int)⟩ = .ok list.content := by
  have hc := take_bytes list
  rw [h.child (two_le_length_bytes list) (hc ▸ content_ne_security list), hc]

/-- The list that the number at a field names. -/
theorem subkeyList_eq (hb : Binned im) {list : KeyList Nat} (h : CellAt im list.cell list.bytes)
    {field : Int} (hf : im.dword field = .ok list.cell) :
    im.subkeyList field = .ok list.found := by
  have hcontent := take_bytes list
  simp only [Image.subkeyList, hb.linked hf, h.cell_eq, h.letters_eq (two_le_length_bytes list),
    bind, Except.bind, hcontent, content_eq]
  cases list with
  | keys cell kind keys => cases kind <;> rfl
  | lists cell lists => rfl

/-! ## Slots -/

/-- Slots of a size are read as the distances that were written. -/
theorem slots_eq (hb : Binned im) {encode : Nat → Bytes} {size : Nat} (hsize : 4 ≤ size)
    (hlen : ∀ d, (encode d).length = size) (hnum : ∀ d, (encode d).take 4 = dword d) :
    ∀ (distances : List Nat) (offset : Nat), (∀ d ∈ distances, d < 2 ^ 32) →
      im.Holds offset (distances.flatMap encode) →
      im.slots size offset distances.length = .ok (distances.map fun d => (place d : Int))
  | [], _, _, _ => rfl
  | d :: distances, offset, hlt, hh => by
    rw [List.flatMap_cons] at hh
    have hdword : im.dword (offset : Int) = .ok d := by
      have hn := hh.left.field 0 4 (show (offset : Int) = offset + (0 : Nat) by omega)
         (by rw [hlen]; omega)
      rw [List.drop_zero, hnum, littleEndian_dword (hlt d List.mem_cons_self)] at hn
      exact hn
    have hrest := hh.right
    rw [hlen] at hrest
    have hslots := slots_eq hb hsize hlen hnum distances (offset + size)
      (fun e he => hlt e (List.mem_cons_of_mem _ he)) hrest
    rw [Int.natCast_add] at hslots
    simp only [Image.slots, List.length_cons, hb.linked hdword, hslots, bind, Except.bind,
      List.map_cons]
    rfl

theorem length_slot (kind : KeyListKind) (d : Nat) :
    (kind.slot d).length = kind.content.slotSize?.getD 0 := by
  cases kind <;> rfl

theorem take_slot (kind : KeyListKind) (d : Nat) : (kind.slot d).take 4 = dword d := by
  cases kind with
  | leaf => exact take_dword d _
  | hash => exact take_dword d _
  | index => exact List.take_of_length_le (Nat.le_of_eq (length_dword d))

theorem slotSize?_content (kind : KeyListKind) :
    ∃ size, kind.content.slotSize? = some size ∧ 4 ≤ size := by
  cases kind
  · exact ⟨8, rfl, by omega⟩
  · exact ⟨8, rfl, by omega⟩
  · exact ⟨4, rfl, by omega⟩

/-- The count of a list that was laid out. -/
theorem listCount_eq {distance : Nat} (letters : Bytes) {slots : Bytes} {n : Nat}
    (h : CellAt im distance (letters ++ word n ++ slots)) (hl : letters.length = 2)
    (hn : n < 2 ^ 16) : im.word (recordPlace distance + 2) = .ok n := by
  have hw := h.content_holds.left.right.number
  rw [hl, length_word, littleEndian_word hn] at hw
  exact hw

/-- The slots of a list that was laid out. -/
theorem listSlots_holds {distance : Nat} (letters : Bytes) {slots : Bytes} {n : Nat}
    (h : CellAt im distance (letters ++ word n ++ slots)) (hl : letters.length = 2) :
    im.Holds (place distance + 4 + 4) slots := by
  have hr := h.content_holds.right
  rwa [List.length_append, hl, length_word] at hr

/-! ## Flattening -/

mutual

/-- Whether a list and the lists below it stand in the image, with counts that fit and keys whose
distances fit. -/
def KeyList.Listed (im : Image) : KeyList Nat → Prop
  | .keys cell kind keys => CellAt im cell (kind.record (keys.map Key.cell)) ∧
      keys.length < 2 ^ 16 ∧ ∀ key ∈ keys, key.cell < 2 ^ 32
  | .lists cell lists => CellAt im cell (listsRecord (lists.map KeyList.cell)) ∧
      lists.length < 2 ^ 16 ∧ listedAll im lists

/-- Whether these lists do. -/
def listedAll (im : Image) : List (KeyList Nat) → Prop
  | [] => True
  | list :: lists => list.Listed im ∧ listedAll im lists

end

theorem KeyList.Listed.cellAt {list : KeyList Nat} (h : list.Listed im) :
    CellAt im list.cell list.bytes := by
  cases list with
  | keys cell kind named => exact h.1
  | lists cell below => exact h.1

/-- The keys of a list are named by its slots. -/
theorem flattenFrom_slots {list : ListRecord} {count size levels : Nat} {cells seen : List Int}
    (hc : im.word (list.offset + 2) = .ok count) (hk : list.content.slotSize? = some size)
    (hs : im.slots size (list.offset + 4) count = .ok cells) :
    im.flattenFrom levels list seen = .ok (cells, seen) := by
  obtain ⟨offset, content⟩ := list
  unfold Image.flattenFrom
  simp only [hc, bind, Except.bind, Failing.mapError_ok]
  cases content with
  | record kind => simp only [hk, hs]; rfl
  | indexList => simp only [hk, hs]; rfl
  | _ => cases hk

/-- Adds the cells that a list names. -/
def addList (im : Image) (levels : Nat) (acc : List Int × List Int) (sub : ListRecord) :
    Except Fault (List Int × List Int) :=
  (im.flattenFrom levels sub acc.2).map fun more => (acc.1 ++ more.1, more.2)

/-- The keys of a list of lists are named by these. -/
theorem flattenFrom_lists {list : ListRecord} {count levels : Nat} {subs : List ListRecord}
    {seen seen' : List Int} (hc : im.word (list.offset + 2) = .ok count)
    (hk : list.content = .listOfLists)
    (hs : im.sublists list.offset (list.offset + 4) count seen = .ok (subs, seen')) :
    im.flattenFrom (levels + 1) list seen = subs.foldlM (addList im levels) ([], seen') := by
  obtain ⟨offset, content⟩ := list
  cases hk
  unfold Image.flattenFrom
  simp only [hc, hs, bind, Except.bind, Failing.mapError_ok]
  rfl

/-- The lists that a list of lists names are found, and seen from then on. -/
theorem sublists_eq (hb : Binned im) (list : Int) :
    ∀ (lists : List (KeyList Nat)) (offset : Nat) (seen : List Int), listedAll im lists →
      im.Holds offset ((lists.map KeyList.cell).flatMap dword) →
      (lists.map KeyList.cell).Nodup → (∀ sub ∈ lists, recordPlace sub.cell ∉ seen) →
      ∃ seen', im.sublists list offset lists.length seen =
          .ok (lists.map KeyList.found, seen') ∧
        ∀ o ∈ seen', o ∈ seen ∨ ∃ d ∈ lists.map KeyList.cell, o = recordPlace d
  | [], _, seen, _, _, _, _ => ⟨seen, rfl, fun o ho => .inl ho⟩
  | sub :: lists, offset, seen, hl, hh, hnodup, hseen => by
    obtain ⟨hsub, hrest⟩ := hl
    have hcell := hsub.cellAt
    rw [List.map_cons, List.flatMap_cons] at hh
    obtain ⟨hnot, hnodup⟩ := List.nodup_cons.mp hnodup
    have hdword : im.dword (offset : Int) = .ok sub.cell := by
      have hn := hh.left.number
      rwa [length_dword, littleEndian_dword hcell.distance_lt] at hn
    have hright := hh.right
    rw [length_dword] at hright
    have hfresh : recordPlace sub.cell ∉ seen := hseen sub List.mem_cons_self
    have hseen' : ∀ other ∈ lists, recordPlace other.cell ∉ recordPlace sub.cell :: seen := by
      intro other ho hm
      rcases List.mem_cons.mp hm with hm | hm
      · exact hnot (recordPlace_inj hm ▸ List.mem_map_of_mem ho)
      · exact hseen other (List.mem_cons_of_mem _ ho) hm
    obtain ⟨seen', heq, hmem⟩ := sublists_eq hb list lists (offset + 4)
      (recordPlace sub.cell :: seen) hrest hright hnodup hseen'
    rw [Int.natCast_add] at heq
    have hfresh' : ((place sub.cell + 4 : Nat) : Int) ∉ seen := hfresh
    have heq' : im.sublists list (offset + 4) lists.length
        (((place sub.cell + 4 : Nat) : Int) :: seen) = .ok (lists.map KeyList.found, seen') := heq
    refine ⟨seen', ?_, fun o ho => ?_⟩
    · simp only [Image.sublists, List.length_cons, hb.linked hdword, hcell.cell_eq,
        child_of_cellAt hcell, content_eq, bind, Except.bind, Failing.mapError_ok, pure,
        Except.pure]
      rw [if_neg hfresh', heq']
      rfl
    · rcases hmem o ho with ho | ⟨d, hd, rfl⟩
      · rcases List.mem_cons.mp ho with rfl | ho
        · exact .inr ⟨sub.cell, List.mem_cons_self, rfl⟩
        · exact .inl ho
      · exact .inr ⟨d, List.mem_cons_of_mem _ hd, rfl⟩

/-- The cells of keys. -/
def cellsOf (keys : List (Key Nat)) : List Int :=
  keys.map fun key => (place key.cell : Int)

theorem cellsOf_append (keys keys' : List (Key Nat)) :
    cellsOf (keys ++ keys') = cellsOf keys ++ cellsOf keys' :=
  List.map_append

mutual

/-- **A list gives the cells of the keys it names**, in order, and of lists it has seen only those
below it. -/
theorem flattenList_eq (hb : Binned im) : ∀ (list : KeyList Nat) (levels : Nat)
    (seen : List Int), list.Listed im → list.depth ≤ levels → list.inner.Nodup →
    (∀ d ∈ list.inner, recordPlace d ∉ seen) →
    ∃ seen', im.flattenFrom levels list.found seen = .ok (cellsOf list.named, seen') ∧
      ∀ o ∈ seen', o ∈ seen ∨ ∃ d ∈ list.inner, o = recordPlace d
  | .keys cell kind keys, levels, seen, hl, _, _, _ => by
    obtain ⟨hcell, hcount, hlt⟩ := hl
    obtain ⟨size, hsize, hfour⟩ := slotSize?_content kind
    have hlen : ∀ d, (kind.slot d).length = size := fun d => by rw [length_slot, hsize]; rfl
    have hword := listCount_eq _ hcell (length_letters kind) (by rwa [List.length_map])
    have hslots := slots_eq hb hfour hlen (take_slot kind) (keys.map Key.cell) _
      (fun d hd => by obtain ⟨key, hk, rfl⟩ := List.mem_map.mp hd; exact hlt key hk)
      (listSlots_holds _ hcell (length_letters kind))
    rw [List.map_map] at hslots
    exact ⟨seen, flattenFrom_slots hword hsize hslots, fun o ho => .inl ho⟩
  | .lists cell lists, levels, seen, hl, hd, hnodup, hseen => by
    obtain ⟨hcell, hcount, hall⟩ := hl
    obtain ⟨levels, rfl⟩ : ∃ n, levels = n + 1 := by
      rw [KeyList.depth] at hd
      exact ⟨levels - 1, by omega⟩
    rw [KeyList.inner] at hnodup hseen
    obtain ⟨hnow, hbelow, hdisj⟩ := List.nodup_append.mp hnodup
    have hword := listCount_eq listLetters hcell rfl (by rwa [List.length_map])
    rw [List.length_map] at hword
    have hslots := listSlots_holds listLetters hcell rfl
    obtain ⟨seen₁, hsub, hmem₁⟩ := sublists_eq hb (recordPlace cell) lists _ seen hall hslots hnow
      fun sub hs => hseen _ (List.mem_append_left _ (List.mem_map_of_mem hs))
    have hfresh : ∀ d ∈ belowAll lists, recordPlace d ∉ seen₁ := by
      intro d hd hm
      rcases hmem₁ _ hm with hm | ⟨e, he, heq⟩
      · exact hseen d (List.mem_append_right _ hd) hm
      · exact hdisj e he d hd (recordPlace_inj heq).symm
    obtain ⟨seen₂, hfold, hmem₂⟩ := flattenAll_eq hb lists levels [] seen₁ hall
      (Nat.le_of_succ_le_succ hd) hbelow hfresh
    refine ⟨seen₂, ?_, fun o ho => ?_⟩
    · rw [flattenFrom_lists hword rfl hsub, hfold]
      rfl
    · rcases hmem₂ o ho with ho | ⟨d, hd, rfl⟩
      · rcases hmem₁ o ho with ho | ⟨d, hd, rfl⟩
        · exact .inl ho
        · exact .inr ⟨d, List.mem_append_left _ hd, rfl⟩
      · exact .inr ⟨d, List.mem_append_right _ hd, rfl⟩

/-- Lists one after the other give the cells of the keys they name together. -/
theorem flattenAll_eq (hb : Binned im) : ∀ (lists : List (KeyList Nat)) (levels : Nat)
    (found : List Int) (seen : List Int), listedAll im lists → depthAll lists ≤ levels →
    (belowAll lists).Nodup → (∀ d ∈ belowAll lists, recordPlace d ∉ seen) →
    ∃ seen', (lists.map KeyList.found).foldlM (addList im levels) (found, seen) =
          .ok (found ++ cellsOf (namedAll lists), seen') ∧
      ∀ o ∈ seen', o ∈ seen ∨ ∃ d ∈ belowAll lists, o = recordPlace d
  | [], levels, found, seen, _, _, _, _ => by
    refine ⟨seen, ?_, fun o ho => .inl ho⟩
    simp [namedAll, cellsOf, pure, Except.pure]
  | list :: lists, levels, found, seen, hl, hd, hnodup, hseen => by
    obtain ⟨hlist, hall⟩ := hl
    rw [depthAll] at hd
    rw [belowAll] at hnodup hseen
    obtain ⟨hhere, hrest, hdisj⟩ := List.nodup_append.mp hnodup
    obtain ⟨seen₁, hflat, hmem₁⟩ := flattenList_eq hb list levels seen hlist (by omega) hhere
      fun d hd => hseen d (List.mem_append_left _ hd)
    have hfresh : ∀ d ∈ belowAll lists, recordPlace d ∉ seen₁ := by
      intro d hd hm
      rcases hmem₁ _ hm with hm | ⟨e, he, heq⟩
      · exact hseen d (List.mem_append_right _ hd) hm
      · exact hdisj e he d hd (recordPlace_inj heq).symm
    obtain ⟨seen₂, hfold, hmem₂⟩ := flattenAll_eq hb lists levels (found ++ cellsOf list.named)
      seen₁ hall (by omega) hrest hfresh
    refine ⟨seen₂, ?_, fun o ho => ?_⟩
    · rw [List.map_cons, List.foldlM_cons, addList, hflat]
      rw [namedAll, cellsOf_append, ← List.append_assoc]
      exact hfold
    · rcases hmem₂ o ho with ho | ⟨d, hd, rfl⟩
      · rcases hmem₁ o ho with ho | ⟨d, hd, rfl⟩
        · exact .inl ho
        · exact .inr ⟨d, List.mem_append_left _ hd, rfl⟩
      · exact .inr ⟨d, List.mem_append_right _ hd, rfl⟩

end

/-- **The list of a key gives the cells of its subkeys**, in order. -/
theorem flatten_eq (hb : Binned im) {list : KeyList Nat} (hl : list.Listed im)
    (hd : list.depth ≤ maxListDepth) (hn : (list.cell :: list.inner).Nodup) :
    im.flatten list.found = .ok (cellsOf list.named) := by
  obtain ⟨hnot, hinner⟩ := List.nodup_cons.mp hn
  obtain ⟨seen, hflat, -⟩ := flattenList_eq hb list maxListDepth [list.found.offset] hl hd hinner
    fun d hd hm => by
      rw [List.mem_singleton] at hm
      exact hnot (recordPlace_inj hm ▸ hd)
  rw [Image.flatten, hflat]
  rfl

end HiveDump.Layout
