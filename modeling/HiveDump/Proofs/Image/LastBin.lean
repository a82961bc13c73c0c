import HiveDump.Proofs.Conversion.Images
import HiveDump.Proofs.Image.CutRoot

/-!
# Distances counted from the end of an image

The first bin of an image says from where distances are counted, and that may be from in front of
the image. A bin has to start there too, and it can: an offset in front of the image counts from its
end. If the last cell of the image holds a node, its record goes on at the start of the image. All
of it can be read piece by piece but a number on both sides of the start, and the time stamp is one.

Results:
* `EndsWith.read`, `EndsWith.number`: reading in front of an image;
* `Straddling.children_eq`: the node in the last cell is the subkey of the root;
* **`Straddling.stopsAcross`**: every conversion of such an image comes to that node;
* `straddling_straddlingImage`: the image with nothing but the root, its list and that node.
-/

namespace HiveDump

namespace Image

variable {im : Image} {b : Bytes} {offset : Int}

/-! ## Reading in front of an image -/

/-- Whether the bytes stand at the end of the image. -/
def EndsWith (im : Image) (b : Bytes) : Prop :=
  b <:+ im.toList

/-- **Reading in front of an image** gives what stands at its end. -/
theorem EndsWith.read (h : im.EndsWith b) (i w : Nat) (ho : offset = (i : Int) - b.length)
    (hi : i < b.length) (hw : i + w ≤ b.length) : im.read offset w = .ok ((b.drop i).take w) := by
  obtain ⟨front, hfront⟩ := h
  have hsize : im.size = front.length + b.length := by
    rw [← length_toList, ← hfront, List.length_append]
  have hlocate : im.locate offset w = .ok (front.length + i) := by
    rw [locate, if_neg (by omega), if_neg (by omega), if_neg (by omega)]
    exact congrArg Except.ok (by omega)
  have hdrop : im.toList.drop (front.length + i) = b.drop i := by
    rw [← hfront, List.drop_length_add_append]
  rw [Image.read, hlocate]
  simp only [Except.map, between_eq, Nat.add_sub_cancel_left, hdrop]

theorem EndsWith.number (h : im.EndsWith b) (i w : Nat) (ho : offset = (i : Int) - b.length)
    (hi : i < b.length) (hw : i + w ≤ b.length) :
    im.number offset w = .ok (Bytes.littleEndian ((b.drop i).take w)) := by
  rw [Image.number, h.read i w ho hi hw]
  rfl

end Image

namespace Layout

/-! ## A root whose subkey lies in the last cell -/

/-- A cell in use that ends behind the letters, the flags and half the time stamp of a node. -/
def lastCell : Bytes :=
  dword (0x100000000 - 12) ++ RecordKind.node.signature ++ word Image.nodeOneByteFlag ++ dword 0

/-- A bin of this cell. -/
def lastBin : Bytes :=
  dword Image.binSignature ++ dword 0 ++ dword 0x1000 ++ lastCell

/-- The start of a bin that has distances counted from the last bin. -/
def leadingHeader : Bytes :=
  dword Image.binSignature ++ dword (0x1000 + 24) ++ dword 0x1000 ++ zeros 20

/-- The list that names the last cell. -/
def straddlingList : Bytes :=
  KeyListKind.index.letters ++ word 1 ++ dword 12

/-- The record of a root that has this list. -/
def straddlingRoot (head : KeyHead) : Bytes :=
  keyRecord head 1 (0x1020 + 24) 0 noCell

/-- Whether an image has a root with nothing but a subkey in its last cell. -/
structure Straddling (im : Image) (head : KeyHead) : Prop where
  header : im.Holds 0 (header 0 48 0x1000)
  bin : im.Holds 0x1000 leadingHeader
  list : CellAt im 32 straddlingList
  root : CellAt im 48 (straddlingRoot head)
  last : im.EndsWith lastBin
  fits : head.Fits

variable {im : Image} {head : KeyHead} {offset : Int} {n : Nat}

/-! ## Distances -/

theorem length_leadingHeader : leadingHeader.length = 0x20 := rfl

namespace Straddling

/-- A number of the first bin. -/
theorem leading_eq (h : Straddling im head) (i : Nat) (ho : offset = Image.binStart + i)
    (hi : i + 4 ≤ 0x20) (hb : (leadingHeader.drop i).take 4 = dword n) (hn : n < 2 ^ 32) :
    im.dword offset = .ok n := by
  have hstart : Image.binStart = 0x1000 := rfl
  rw [Image.dword, h.bin.field i 4 (by omega) (by rwa [length_leadingHeader]), hb,
    littleEndian_dword hn]

/-- A number of the last bin, read in front of the image. -/
theorem last_eq (h : Straddling im head) (i : Nat) (ho : offset = (i : Int) - 24)
    (hi : i + 4 ≤ 24) (hb : (lastBin.drop i).take 4 = dword n) (hn : n < 2 ^ 32) :
    im.dword offset = .ok n := by
  have hlength : lastBin.length = 24 := rfl
  rw [Image.dword, h.last.number i 4 (by omega) (by omega) (by omega), hb, littleEndian_dword hn]

/-- Distances are counted from the last bin. -/
theorem origin_eq (h : Straddling im head) : im.origin = .ok (-24) := by
  have hdistance : im.dword (Image.binStart + 4) = .ok (0x1000 + 24) :=
    h.leading_eq 4 rfl (by decide) rfl (by decide)
  have hcheck : im.checkBin (-24) = .ok () :=
    Image.checkBin_eq_ok.mpr ⟨h.last_eq 0 (by decide) (by decide) rfl (by decide), 0x1000,
      h.last_eq 8 (by decide) (by decide) rfl (by decide)⟩
  have horigin : Image.binStart - ((0x1000 + 24 : Nat) : Int) = -24 := by decide
  simp only [Image.origin, hdistance, bind, Except.bind, horigin, hcheck]
  rfl

theorem linked_eq (h : Straddling im head) {field : Int} (hn : im.dword field = .ok n) :
    im.linked field = .ok (-24 + n) := by
  simp only [Image.linked, hn, h.origin_eq, bind, Except.bind]
  rfl

/-- The list of the root names the last cell. -/
theorem subkeyCells_eq (h : Straddling im head) :
    im.subkeyCells ((place 48 + 4 : Nat) : Int) = .ok [-12] := by
  have hcell : im.cell (-24 + (0x1020 + 24 : Nat)) = .ok ⟨place 32, -16⟩ := by
    have hplace : (-24 + (0x1020 + 24 : Nat) : Int) = place 32 := by
      unfold place
      omega
    rw [hplace]
    exact h.list.cell_eq
  have hletters : im.letters ⟨place 32, -16⟩ = .ok KeyListKind.index.letters :=
    h.list.letters_eq (by decide) _
  have hlist : im.subkeyList (((place 48 + 4 : Nat) : Int) + 0x1C) =
      .ok ⟨recordPlace 32, .indexList⟩ := by
    simp only [Image.subkeyList, h.linked_eq (subkeyDistance_eq h.root (by omega)), hcell,
      hletters, bind, Except.bind, ofLetters_letters, content_eq]
    rfl
  have hslot : im.linked (recordPlace 32 + 4) = .ok (-24 + (12 : Nat)) := by
    have hn := (listSlots_holds _ h.list rfl).number
    rw [length_dword, littleEndian_dword (by decide)] at hn
    exact h.linked_eq hn
  have hslots : im.slots 4 (recordPlace 32 + 4) 1 = .ok [-12] := by
    simp only [Image.slots, hslot, bind, Except.bind]
    rfl
  have hflat : im.flatten ⟨recordPlace 32, .indexList⟩ = .ok [-12] := by
    have hcount : im.word (recordPlace 32 + 2) = .ok 1 := listCount_eq _ h.list rfl (by decide)
    have hfrom : im.flattenFrom maxListDepth ⟨recordPlace 32, .indexList⟩ [recordPlace 32] =
        .ok ([-12], [recordPlace 32]) := flattenFrom_slots hcount rfl hslots
    rw [Image.flatten, hfrom]
    rfl
  simp only [Image.subkeyCells, subkeyCount_eq h.root (by decide), hlist, hflat, bind, Except.bind,
    Failing.mapError_ok]
  rfl

/-! ## The node in the last cell -/

theorem cell_eq (h : Straddling im head) : im.cell (-12) = .ok ⟨-12, -12⟩ := by
  have hsize : im.dword (-12) = .ok (0x100000000 - 12) :=
    h.last_eq 12 (by decide) (by decide) rfl (by decide)
  exact Image.cell_eq_ok.mpr ⟨_, hsize, by decide⟩

theorem straddles (h : Straddling im head) : im.Straddles (-12) := by
  refine ⟨by omega, by omega, ?_⟩
  rintro ⟨c, hc, hfree⟩
  rw [h.cell_eq] at hc
  cases hc
  cases hfree

/-- The record of the node in the last cell goes on at the start of the image. -/
theorem exists_node (h : Straddling im head) : ∃ n, im.node (-12) = .ok n := by
  have hletters : im.read (-8) 2 = .ok RecordKind.node.signature :=
    h.last.read 16 2 (by decide) (by decide) (by decide)
  obtain ⟨flags, hflags⟩ : ∃ flags, im.word (-8 + 2) = .ok flags :=
    ⟨_, h.last.number 18 2 (by decide) (by decide) (by decide)⟩
  obtain ⟨length, hlength⟩ : ∃ length, im.word (-8 + 0x48) = .ok length := by
    refine ⟨_, h.header.field 0x40 2 (by omega) ?_⟩
    rw [length_header]
    omega
  exact ⟨_, Image.node_eq_ok.mpr ⟨_, h.cell_eq, Image.checkRecord_eq_ok.mpr hletters,
    Failing.bind_eq_ok.mpr ⟨length, hlength, Failing.bind_eq_ok.mpr ⟨flags, hflags, rfl⟩⟩⟩⟩

/-! ## Walks -/

theorem rootAt (h : Straddling im head) :
    HiveFile.RootAt im ((place 48 + 4 : Nat) : Int) := by
  obtain ⟨hsignature, hdistance⟩ := header_fields 0 48 0x1000
  have hlength := length_header 0 48 0x1000
  have hcell : ((place 48 + 4 : Nat) : Int) - 4 = place 48 := by omega
  refine ⟨?_, h.leading_eq 0 rfl (by decide) rfl (by decide),
    ⟨0x1000, h.leading_eq 8 rfl (by decide) rfl (by decide)⟩, ⟨48, ?_, ?_⟩, ?_, ?_⟩
  · rw [Image.dword, h.header.field 0 4 (by omega) (by omega), List.drop_zero, hsignature,
      littleEndian_dword (by decide)]
  · rw [Image.dword, h.header.field 0x24 4 (by omega) (by omega), hdistance,
      littleEndian_dword (by decide)]
  · rw [Int.natCast_add, place_eq]
    rfl
  · obtain ⟨stored, hs, -⟩ := Image.cell_eq_ok.mp h.root.cell_eq
    rw [hcell]
    exact ⟨stored, hs⟩
  · have hletters : (straddlingRoot head).take 2 = RecordKind.node.signature := take_keyRecord
    rw [h.root.content_holds.letters_read two_le_length_keyRecord, hletters]

/-- **The image opens** at its root. -/
theorem ofImage_eq (h : Straddling im head) (path : String) (tracing : Bool) :
    ∃ trace, HiveFile.ofImage path im tracing = (.ok (opened path im tracing 48 head), trace) := by
  have hrecord := HiveFile.rootRecord_eq_ok.mpr h.rootAt
  simp only [HiveFile.ofImage, hrecord, nodeAt_eq h.root.content_holds h.fits]
  exact ⟨_, rfl⟩

/-- The node in the last cell is the subkey of the root. -/
theorem children_eq (h : Straddling im head) (path : String) (tracing : Bool) :
    ∃ e n, (opened path im tracing 48 head).children (nodeOf 48 head) = .ok [e] ∧
      e.outcome = .ok n ∧ n.handle = -12 := by
  obtain ⟨n, hn⟩ := h.exists_node
  refine ⟨HiveFile.entryAt .subkeys (fun c => (im.node c).mapError .record)
    (HiveFile.nodeTrace path tracing) (-12), n, ?_,
    HiveFile.outcome_entryAt.mpr (Failing.mapError_eq_ok.mpr hn), Image.handle_of_node hn⟩
  simp only [HiveFile.children, opened, keyRecordOfHandle h.root, h.subkeyCells_eq, bind,
    Except.bind, Failing.mapError_ok]
  rfl

theorem values_eq (h : Straddling im head) (path : String) (tracing : Bool) :
    (opened path im tracing 48 head).values (nodeOf 48 head) = .ok [] := by
  simp only [HiveFile.values, opened, keyRecordOfHandle h.root, Image.valueCells,
    valueCount_eq h.root (by decide), bind, Except.bind, if_true]
  rfl

/-- **Every conversion of the image comes to the node in its last cell.** -/
theorem stopsAcross (h : Straddling im head) (path : String) (tracing skipping : Bool) :
    ∃ n, n.handle = -12 ∧ (opened path im tracing 48 head).StopsAcross skipping n := by
  obtain ⟨e, n, hchildren, houtcome, hhandle⟩ := h.children_eq path tracing
  have hgood : e.good? = some n := by
    rw [Entry.good?, houtcome]
  have hne : n.handle ≠ (nodeOf 48 head).handle := by
    rw [hhandle]
    exact Int.ne_of_lt (Int.lt_of_lt_of_le (by decide) (Int.natCast_nonneg (place 48)))
  have hentries : Listing.entries ((opened path im tracing 48 head).source.children
      (nodeOf 48 head)) = [e] := congrArg Listing.entries hchildren
  obtain ⟨after, hevents⟩ := Walk.events_of_firstChild hentries hgood hne
  refine ⟨n, hhandle, by rw [hhandle]; exact h.straddles, _, after, hevents, ?_⟩
  intro ev hev
  rcases List.mem_append.mp hev with hev | hev
  · rcases List.mem_cons.mp hev with rfl | hev
    · refine Event.stop?_enter_eq_none.mpr fun fault hfault => ?_
      have hstamp := nodeTimestamp_eq h.root h.fits
      cases hfault.symm.trans hstamp
    · obtain ⟨_, he, -⟩ := List.mem_flatMap.mp hev
      have hvalues := congrArg Listing.entries (h.values_eq path tracing)
      exact absurd (hvalues ▸ he) List.not_mem_nil
  · rw [Walk.entryEvents, houtcome, List.append_nil] at hev
    obtain ⟨line, -, rfl⟩ := List.mem_map.mp hev
    rfl

end Straddling

/-! ## An image with such a root -/

/-- What stands in front of the last bin. -/
def leadingBytes (head : KeyHead) : Bytes :=
  header 0 48 0x1000 ++ (leadingHeader ++ (cellBytes straddlingList ++
    cellBytes (straddlingRoot head)))

/-- The image of nothing but such a root, its list and the last bin. -/
def straddlingImage (head : KeyHead) : Image :=
  Image.ofList (leadingBytes head ++ lastBin)

theorem straddling_straddlingImage (hf : head.Fits) : Straddling (straddlingImage head) head := by
  have hbytes : (straddlingImage head).toList = [] ++ leadingBytes head ++ lastBin := by
    rw [List.nil_append]
    exact Image.toList_ofList _
  have hheader : (straddlingImage head).Holds 0 (leadingBytes head) := Image.holds_append hbytes
  rw [leadingBytes] at hheader
  have hbin := hheader.right
  have hlist := hbin.right
  have hroot := hlist.right
  have hsize : (cellBytes straddlingList).length = 16 := rfl
  have hplace : 0 + 0x1000 + 0x20 = place 32 := by
    unfold place
    rfl
  have hplace' : place 32 + 16 = place 48 := by
    unfold place
    rfl
  rw [length_header] at hbin hlist hroot
  rw [length_leadingHeader, hplace] at hlist hroot
  rw [hsize, hplace'] at hroot
  refine ⟨hheader.left, hbin.left, ⟨hlist.left, by decide, by decide⟩, ⟨hroot, by decide, ?_⟩,
    ?_, hf⟩
  · have hname := hf.name.length
    rw [straddlingRoot, length_keyRecord]
    unfold cellSize cellHeaderSize
    omega
  · rw [Image.EndsWith, hbytes]
    exact List.suffix_append _ _

end Layout

end HiveDump
