import HiveDump.Proofs.Image.KeyLists
import HiveDump.Proofs.Image.ValueRecord

/-!
# Opening an image that was laid out

An image has a header, and behind it one bin with its cells. `HiveFile.ofImage` opens it at the root
that the header names, and from a node of it the two lists of its key are found.

Results:
* **`ofImage_eq`**: an image with a header, a bin and a root is opened at its root;
* `children_eq`, `values_eq`: the lists of a node are those of its key;
* `size_imageOf`, `imageOf_holds`: how long an image is, and that it holds its cells where their
  distances lead.
-/

namespace HiveDump.Layout

variable {im : Image} {distance : Nat}

/-! ## Header and root -/

theorem length_header (timestamp root size : Nat) :
    (header timestamp root size).length = 0x1000 := by
  simp only [header, List.length_append, length_dword, Bytes.length_ofLittleEndian, length_zeros]

theorem header_fields (timestamp root size : Nat) :
    (header timestamp root size).take 4 = dword HiveFile.headerSignature ∧
      ((header timestamp root size).drop 0x24).take 4 = dword root := by
  simp only [header, List.append_assoc, drop_dword, drop_qword, List.drop_zero, take_dword,
    and_self]

/-- Whether the image has a header that names the root at a distance, and a bin behind it. -/
structure Headed (im : Image) (root : Nat) : Prop where
  binned : Binned im
  header : ∃ timestamp size, im.Holds 0 (header timestamp root size)
  root_lt : root < 2 ^ 32

theorem Headed.letters_eq (h : Headed im distance) :
    im.dword 0 = .ok HiveFile.headerSignature := by
  obtain ⟨timestamp, size, hh⟩ := h.header
  obtain ⟨hsig, -⟩ := header_fields timestamp distance size
  have hlen := length_header timestamp distance size
  have hn := hh.field 0 4 (show (0 : Int) = (0 : Nat) + (0 : Nat) by omega) (by omega)
  rw [List.drop_zero, hsig, littleEndian_dword (by decide)] at hn
  exact hn

theorem Headed.distance_eq (h : Headed im distance) : im.dword 0x24 = .ok distance := by
  obtain ⟨timestamp, size, hh⟩ := h.header
  obtain ⟨-, hroot⟩ := header_fields timestamp distance size
  have hlen := length_header timestamp distance size
  have hn := hh.field 0x24 4 (show (0x24 : Int) = (0 : Nat) + (0x24 : Nat) by omega) (by omega)
  rw [hroot, littleEndian_dword h.root_lt] at hn
  exact hn

/-- The time stamp of a hive stands in its header. -/
theorem Headed.exists_timestamp (h : Headed im distance) :
    ∃ ticks, im.timestampAt 0xC = .ok ticks := by
  obtain ⟨timestamp, size, hh⟩ := h.header
  have hlen := length_header timestamp distance size
  obtain ⟨n, hn⟩ : ∃ n, im.qword 0xC = .ok n :=
    ⟨_, hh.field 0xC 8 (show (0xC : Int) = (0 : Nat) + (0xC : Nat) by omega) (by omega)⟩
  rw [Image.timestampAt, hn]
  exact ⟨_, rfl⟩

theorem Headed.rootRecord (h : Headed im distance) {head : KeyHead}
    {subkeyCount subkeys valueCount values : Nat}
    (hc : CellAt im distance (keyRecord head subkeyCount subkeys valueCount values)) :
    HiveFile.rootRecord im = .ok ((place distance + 4 : Nat) : Int) := by
  have hrecord := hc.record two_le_length_keyRecord take_keyRecord
  rw [place_eq] at hrecord
  simp only [HiveFile.rootRecord, h.letters_eq, h.binned.checkBin, h.distance_eq, bind,
    Except.bind, ne_eq, not_true_eq_false, if_false]
  exact hrecord

/-- The hive that is found in an image with a root. -/
def opened (path : String) (im : Image) (tracing : Bool) (distance : Nat) (head : KeyHead) :
    HiveFile :=
  ⟨path, im, tracing, nodeOf distance head⟩

/-- **An image is opened at its root.** -/
theorem ofImage_eq (h : Headed im distance) {head : KeyHead} (hf : head.Fits)
    {subkeyCount subkeys valueCount values : Nat}
    (hc : CellAt im distance (keyRecord head subkeyCount subkeys valueCount values))
    (path : String) (tracing : Bool) :
    ∃ trace, HiveFile.ofImage path im tracing =
      (.ok (opened path im tracing distance head), trace) := by
  simp only [HiveFile.ofImage, h.rootRecord hc, nodeAt_eq hc.content_holds hf]
  exact ⟨_, rfl⟩

/-! ## The lists of a key -/

/-- Whether the subkeys of a key stand in lists that can be flattened. -/
structure ListAt (im : Image) (list : KeyList Nat) : Prop where
  listed : list.Listed im
  depth : list.depth ≤ maxListDepth
  nodup : (list.cell :: list.inner).Nodup

theorem subkeyCells_eq (hb : Binned im) {head : KeyHead} {valueCount values : Nat}
    {subkeys : Option (KeyList Nat)} (hl : ∀ list, subkeys = some list → ListAt im list)
    (hcount : (subkeysOf subkeys).length < 0xFFFFFFFF)
    (h : CellAt im distance (keyRecord head (subkeysOf subkeys).length (listDistance subkeys)
      valueCount values)) :
    im.subkeyCells ((place distance + 4 : Nat) : Int) = .ok (cellsOf (subkeysOf subkeys)) := by
  have hn := subkeyCount_eq h hcount
  simp only [Image.subkeyCells, hn, bind, Except.bind, Failing.mapError_ok]
  by_cases h0 : (subkeysOf subkeys).length = 0
  · rw [if_pos h0, List.length_eq_zero_iff.mp h0]
    rfl
  · rw [if_neg h0]
    cases subkeys with
    | none => exact absurd rfl h0
    | some list =>
      obtain ⟨hlisted, hdepth, hnodup⟩ := hl list rfl
      have hfield := subkeyDistance_eq h hlisted.cellAt.distance_lt
      simp only [subkeyList_eq hb hlisted.cellAt hfield, Failing.mapError_ok,
        flatten_eq hb hlisted hdepth hnodup]
      rfl

/-- Whether the slots of a key's values stand in a cell, if there are any. -/
def SlotsAt (im : Image) (slots : Nat) (distances : List Nat) : Prop :=
  distances = [] ∨ CellAt im slots (distances.flatMap dword)

theorem length_flatMap_dword (distances : List Nat) :
    (distances.flatMap dword).length = 4 * distances.length := by
  induction distances with
  | nil => rfl
  | cons d distances ih =>
    rw [List.flatMap_cons, List.length_append, length_dword, ih, List.length_cons]
    omega

theorem valueCells_eq (hb : Binned im) {head : KeyHead} {subkeyCount subkeys slots : Nat}
    {distances : List Nat} (hs : SlotsAt im slots distances) (hlt : ∀ d ∈ distances, d < 2 ^ 32)
    (h : CellAt im distance (keyRecord head subkeyCount subkeys distances.length slots)) :
    im.valueCells ((place distance + 4 : Nat) : Int) =
      .ok (distances.map fun d => (place d : Int)) := by
  rcases hs with rfl | hs
  · have hn : im.entryCount (((place distance + 4 : Nat) : Int) + 0x24) = .ok 0 :=
      valueCount_eq h (by decide)
    simp only [Image.valueCells, hn, bind, Except.bind, if_true]
    rfl
  · have hsize := hs.size_le
    have hle := le_cellSize (distances.flatMap dword).length
    rw [length_flatMap_dword] at hsize hle
    have hn := valueCount_eq h (by omega)
    have hfield := valueDistance_eq h hs.distance_lt
    have hslots := slots_eq hb (Nat.le_refl 4) length_dword
      (fun d => List.take_of_length_le (Nat.le_of_eq (length_dword d))) distances _ hlt
      hs.content_holds
    simp only [Image.valueCells, hn, bind, Except.bind]
    by_cases h0 : distances.length = 0
    · rw [if_pos h0, List.length_eq_zero_iff.mp h0]
      rfl
    · rw [if_neg h0]
      simp only [hb.linked hfield, hs.cell_eq, content_eq]
      exact hslots

/-- The subkeys of a node are those of its key. -/
theorem children_eq (path : String) (tracing : Bool) (root : Nat) (rootHead : KeyHead)
    (hb : Binned im) {head : KeyHead} {valueCount values : Nat}
    {subkeys : Option (KeyList Nat)} (hl : ∀ list, subkeys = some list → ListAt im list)
    (hcount : (subkeysOf subkeys).length < 0xFFFFFFFF)
    (h : CellAt im distance (keyRecord head (subkeysOf subkeys).length (listDistance subkeys)
      valueCount values)) :
    (opened path im tracing root rootHead).children (nodeOf distance head) =
      .ok ((cellsOf (subkeysOf subkeys)).map (HiveFile.entryAt .subkeys
        (fun c => (im.node c).mapError .record) (HiveFile.nodeTrace path tracing))) := by
  simp only [HiveFile.children, opened, keyRecordOfHandle h, subkeyCells_eq hb hl hcount h, bind,
    Except.bind, Failing.mapError_ok]
  rfl

/-- The values of a node are those of its key. -/
theorem values_eq (path : String) (tracing : Bool) (root : Nat) (rootHead : KeyHead)
    (hb : Binned im) {head : KeyHead} {subkeyCount subkeys slots : Nat}
    {distances : List Nat} (hs : SlotsAt im slots distances) (hlt : ∀ d ∈ distances, d < 2 ^ 32)
    (h : CellAt im distance (keyRecord head subkeyCount subkeys distances.length slots)) :
    (opened path im tracing root rootHead).values (nodeOf distance head) =
      .ok ((distances.map fun d => (place d : Int)).map
        (HiveFile.entryAt .values im.value (HiveFile.valueTrace path tracing))) := by
  simp only [HiveFile.values, opened, keyRecordOfHandle h, valueCells_eq hb hs hlt h, bind,
    Except.bind, Failing.mapError_ok]
  rfl

/-! ## Images -/

theorem le_binSize (cells : Nat) : binHeaderSize + cells ≤ binSize cells := by
  unfold binSize
  omega

theorem length_bin (cells : Bytes) : (bin cells).length = binSize cells.length := by
  have hle := le_binSize cells.length
  have hheader := length_binHeader (binSize cells.length)
  rw [bin, List.length_append, List.length_append, hheader, length_zeros, binHeaderSize] at *
  omega

theorem toList_imageOf (timestamp root : Nat) (cells : Bytes) :
    (imageOf timestamp root cells).toList =
      header timestamp root (binSize cells.length) ++ bin cells :=
  Image.toList_ofList _

theorem size_imageOf (timestamp root : Nat) (cells : Bytes) :
    (imageOf timestamp root cells).size = 0x1000 + binSize cells.length := by
  rw [← Image.length_toList, toList_imageOf, List.length_append, length_header, length_bin]

/-- An image has the header that it was given, and a bin behind it. -/
theorem headed_imageOf (timestamp : Nat) {root : Nat} (cells : Bytes) (hr : root < 2 ^ 32) :
    Headed (imageOf timestamp root cells) root := by
  have hlist := toList_imageOf timestamp root cells
  have hlen := length_header timestamp root (binSize cells.length)
  refine ⟨⟨binSize cells.length, ?_⟩, ⟨timestamp, binSize cells.length, ?_⟩, hr⟩
  · have hb : (imageOf timestamp root cells).toList =
        header timestamp root (binSize cells.length) ++ binHeader (binSize cells.length) ++
          (cells ++ zeros (binSize cells.length - binHeaderSize - cells.length)) := by
      rw [hlist, bin]
      simp only [List.append_assoc]
    rw [← hlen]
    exact Image.holds_append hb
  · exact Image.holds_append (a := []) hlist

/-- An image holds its cells where their distances lead. -/
theorem imageOf_holds (timestamp root : Nat) (before content after : Bytes) :
    (imageOf timestamp root (before ++ content ++ after)).Holds
      (place (binHeaderSize + before.length)) content := by
  have hlist := toList_imageOf timestamp root (before ++ content ++ after)
  rw [bin] at hlist
  have hsplit : (imageOf timestamp root (before ++ content ++ after)).toList =
      (header timestamp root (binSize (before ++ content ++ after).length) ++
        binHeader (binSize (before ++ content ++ after).length) ++ before) ++ content ++
          (after ++ zeros (binSize (before ++ content ++ after).length - binHeaderSize -
            (before ++ content ++ after).length)) := by
    rw [hlist]
    simp only [List.append_assoc]
  have hh := Image.holds_append hsplit
  rw [List.length_append, List.length_append, length_header, length_binHeader] at hh
  have hplace : place (binHeaderSize + before.length) = 0x1000 + 0x20 + before.length := by
    unfold place binHeaderSize
    omega
  rwa [hplace]

end HiveDump.Layout
