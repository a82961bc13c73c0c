import HiveDump.Proofs.Image.CutRoot
import HiveDump.Proofs.Image.Storage

/-!
# What handles lead back to

A list of an image reads its entries from the cells that it names, in use or not. A question about
a node or value reads the record once more, from the cell that the handle names, and refuses a cell
that is not in use. So the two agree on every record in a cell in use: on its letters, and on its
length with the stored name. About a record in a free cell every question is refused, although a
list has delivered it.

Results:
* `recordOfHandle_of_record`: a record in a cell in use is found from its handle;
* **`Delivered.leadsBack`**: what is found there is what the list delivered;
* **`handles_lead_back`**: the nodes and values of an opened image.
-/

namespace HiveDump

namespace Image

variable {im : Image} {kind : RecordKind} {handle : Int} {fixed field : Nat} {name : Bytes}
  {v : Value}

/-! ## Slices next to each other -/

theorem index_mono (size : Nat) {a b : Int} (ha : 0 ≤ a) (hab : a ≤ b) :
    Bytes.index size a ≤ Bytes.index size b := by
  rw [index_of_nonneg size ha, index_of_nonneg size (Int.le_trans ha hab)]
  omega

theorem slice_append {start middle stop : Int} (hstart : 0 ≤ start) (hmiddle : start ≤ middle)
    (hstop : middle ≤ stop) :
    im.slice start stop = im.slice start middle ++ im.slice middle stop := by
  have hfirst := index_mono im.size hstart hmiddle
  have hsecond := index_mono im.size (Int.le_trans hstart hmiddle) hstop
  simp only [slice, between_eq]
  rw [← Nat.sub_add_sub_cancel hsecond hfirst, Nat.add_comm, List.take_add, List.drop_drop,
    Nat.add_sub_cancel' hfirst]

theorem length_slice_of_le {start : Int} {n : Nat} (hstart : 0 ≤ start)
    (hfits : start + n ≤ im.size) : (im.slice start (start + n)).length = n := by
  rw [length_slice, index_of_nonneg _ hstart, index_of_nonneg _ (by omega)]
  omega

/-! ## Records in cells in use -/

/-- A record in a cell in use is found from its handle. -/
theorem recordOfHandle_of_record {record : Int} (h : im.record kind handle = .ok record)
    (hf : ¬ im.FreeAt handle) :
    im.recordOfHandle kind handle = .ok (handle + cellHeaderSize) := by
  obtain ⟨⟨stored, hs⟩, hletters, -⟩ := record_eq_ok.mp h
  have hcell := cell_eq_ok.mpr ⟨stored, hs, rfl⟩
  have hfree : Cell.isFree ⟨handle, (stored : Int).bmod 0x100000000⟩ = false :=
    Bool.eq_false_iff.mpr fun ht => hf ⟨_, hcell, ht⟩
  have hsignature : im.letters ⟨handle, (stored : Int).bmod 0x100000000⟩ = .ok kind.signature :=
    hletters
  simp only [recordOfHandle, hcell, hfree, hsignature, bind, Except.bind, Bool.false_eq_true,
    if_false, ne_eq, not_true_eq_false]
  rfl

/-- Whether a record was read in the cell at a handle whose name stands behind `fixed` bytes of the
cell, and is as long as the number at `field` behind the start of the record says. -/
structure Delivered (im : Image) (kind : RecordKind) (handle : Int) (fixed field : Nat)
    (name : Bytes) : Prop where
  record : im.record kind handle = .ok (handle + cellHeaderSize)
  name : ∃ n : Nat, im.word (handle + cellHeaderSize + field) = .ok n ∧
    name = im.slice (handle + fixed) (handle + fixed + n)

/-- Whether the record with such a name lies in the image, and not in front of its start. -/
structure RecordInside (im : Image) (handle : Int) (fixed field : Nat) : Prop where
  nonneg : 0 ≤ handle + cellHeaderSize
  fits : ∃ n : Nat, im.word (handle + cellHeaderSize + field) = .ok n ∧
    handle + fixed + n ≤ im.size

/-- Whether a handle leads back to the record with this name: from the cell's start on it takes
`fixed` bytes, and then the name. -/
structure LeadsBack (im : Image) (kind : RecordKind) (handle : Int) (fixed : Nat) (name : Bytes) :
    Prop where
  record : im.recordOfHandle kind handle = .ok (handle + cellHeaderSize)
  letters : im.read (handle + cellHeaderSize) 2 = .ok kind.signature
  spans : im.Spans handle (fixed + name.length : Nat)
  run : ∃ front, front.length = fixed ∧
    im.slice handle (handle + (fixed + name.length : Nat)) = front ++ name

theorem delivered_of_node {n : Node} (h : im.node handle = .ok n) :
    im.Delivered .node handle nodeFixedSize 0x48 n.storedName := by
  obtain ⟨record, hrecord, hn⟩ := Failing.bind_eq_ok.mp h
  obtain ⟨-, -, rfl⟩ := record_eq_ok.mp hrecord
  obtain ⟨nameLength, hword, hn⟩ := Failing.bind_eq_ok.mp hn
  obtain ⟨flags, -, hn⟩ := Failing.bind_eq_ok.mp hn
  cases hn
  have hplace : handle + nodeFixedSize = handle + 4 + 0x4C := by
    unfold nodeFixedSize
    omega
  exact ⟨hrecord, nameLength, hword, by rw [hplace]⟩

theorem delivered_of_value (h : im.value handle = .ok v) :
    im.Delivered .value handle valueFixedSize 2 v.storedKey := by
  obtain ⟨record, hrecord, -⟩ := Failing.bind_eq_ok.mp h
  have hrecord := Failing.mapError_eq_ok.mp hrecord
  obtain ⟨-, -, rfl⟩ := record_eq_ok.mp hrecord
  obtain ⟨nameLength, hword, hhead⟩ := Failing.bind_eq_ok.mp (readAt_of_value h).head
  obtain ⟨flags, -, hhead⟩ := Failing.bind_eq_ok.mp hhead
  obtain ⟨kind, -, hhead⟩ := Failing.bind_eq_ok.mp hhead
  have hstored := congrArg Prod.fst (Except.ok.inj hhead)
  have hplace : handle + valueFixedSize = handle + cellHeaderSize + 0x14 := by
    unfold valueFixedSize cellHeaderSize
    omega
  exact ⟨hrecord, nameLength, hword, by rw [hplace]; exact hstored.symm⟩

/-- The bytes of a number stand where it was read. -/
theorem holds_of_number {offset width n : Nat} (h : im.number offset width = .ok n) :
    im.Holds offset (Bytes.ofLittleEndian width n) := by
  obtain ⟨b, hb, rfl⟩ := number_eq_ok.mp h
  have hreadable := readable_of_number h
  unfold Readable at hreadable
  have hfits : offset + width ≤ im.size := by omega
  have hlocate : im.locate offset width = .ok offset := by
    rw [locate, if_pos (by omega), if_pos (by omega), Int.toNat_natCast]
  rw [read, hlocate] at hb
  have hbytes : im.between offset (offset + width) = b := Except.ok.inj hb
  rw [between_eq, Nat.add_sub_cancel_left] at hbytes
  have hlength : b.length = width := by
    rw [← hbytes, List.length_take, List.length_drop, length_toList]
    omega
  rw [← hlength, Bytes.ofLittleEndian_littleEndian]
  exact ⟨by rwa [hlength], by rwa [hlength]⟩

/-- The letters of the header are those of no record. -/
theorem letters_of_header (h : im.dword 0 = .ok HiveFile.headerSignature) :
    im.read 0 2 = .ok [0x72, 0x65] := by
  have hholds : im.Holds 0 (Bytes.ofLittleEndian 4 HiveFile.headerSignature) := holds_of_number h
  exact hholds.letters_read (by decide)

/-- A record that does not start in front of the image has its cell there as well: one that starts
with the image would have the letters of the header. -/
theorem Delivered.nonneg (h : im.Delivered kind handle fixed field name)
    (hheader : im.dword 0 = .ok HiveFile.headerSignature) (hstart : 0 ≤ handle + cellHeaderSize) :
    0 ≤ handle := by
  obtain ⟨⟨stored, hs⟩, hletters, -⟩ := record_eq_ok.mp h.record
  have hreadable := readable_of_number hs
  unfold Readable at hreadable
  unfold cellHeaderSize at hstart
  by_contra hneg
  have hzero : handle + 4 = 0 := by omega
  rw [hzero, letters_of_header hheader] at hletters
  cases kind <;> exact absurd (Except.ok.inj hletters) (by decide)

/-- **A handle leads back to the record that was delivered**, if the record is in use and lies in
the image. -/
theorem Delivered.leadsBack (h : im.Delivered kind handle fixed field name)
    (hheader : im.dword 0 = .ok HiveFile.headerSignature) (hfree : ¬ im.FreeAt handle)
    (hinside : im.RecordInside handle fixed field) :
    im.LeadsBack kind handle fixed name ∧
      im.word (handle + cellHeaderSize + field) = .ok name.length := by
  obtain ⟨n, hword, rfl⟩ := h.name
  obtain ⟨n', hword', hfits⟩ := hinside.fits
  rw [hword] at hword'
  cases hword'
  have hstart := h.nonneg hheader hinside.nonneg
  have hlength : (im.slice (handle + fixed) (handle + fixed + n)).length = n :=
    length_slice_of_le (by omega) (by omega)
  have hfront : (im.slice handle (handle + fixed)).length = fixed :=
    length_slice_of_le hstart (by omega)
  obtain ⟨-, hletters, -⟩ := record_eq_ok.mp h.record
  rw [hlength]
  refine ⟨⟨recordOfHandle_of_record h.record hfree, hletters, ⟨hstart, by omega, by omega⟩, ?_⟩,
    hword⟩
  refine ⟨_, hfront, ?_⟩
  rw [hlength, Int.natCast_add, ← Int.add_assoc]
  exact slice_append hstart (by omega) (by omega)

theorem node_of_free {n : Node} (hfree : im.FreeAt n.handle) :
    im.nodeLength n = .error (.noRecord .node n.handle none) ∧
      im.nodeTimestamp n = .error (.noRecord .node n.handle none) := by
  rw [nodeLength, nodeTimestamp, recordOfHandle_of_free .node hfree]
  exact ⟨rfl, rfl⟩

theorem valueLength_of_free (hfree : im.FreeAt v.handle) :
    im.valueLength v = .error (.noRecord .value v.handle none) := by
  rw [valueLength, recordOfHandle_of_free .value hfree]
  rfl

theorem dataCell_of_free (hfree : im.FreeAt v.handle) :
    im.dataCell v = .error (.noRecord .value v.handle none) := by
  rw [dataCell, recordOfHandle_of_free .value hfree]
  rfl

theorem nodeLength_of_word {n : Node} {length : Nat}
    (hrecord : im.recordOfHandle .node n.handle = .ok (n.handle + cellHeaderSize))
    (hword : im.word (n.handle + cellHeaderSize + (0x48 : Nat)) = .ok length) :
    im.nodeLength n = .ok (nodeFixedSize + length : Nat) := by
  rw [nodeLength, hrecord]
  exact Failing.map_eq_ok.mpr ⟨length, Failing.mapError_eq_ok.mpr hword, rfl⟩

theorem valueLength_of_word {length : Nat}
    (hrecord : im.recordOfHandle .value v.handle = .ok (v.handle + cellHeaderSize))
    (hword : im.word (v.handle + cellHeaderSize + (2 : Nat)) = .ok length) :
    im.valueLength v = .ok (valueFixedSize + length : Nat) := by
  rw [valueLength, hrecord]
  exact Failing.map_eq_ok.mpr ⟨length, Failing.mapError_eq_ok.mpr hword, rfl⟩

end Image

namespace HiveFile

variable {path : String} {im : Image} {tracing : Bool} {h : HiveFile} {trace : List LogLine}

/-! ## Opened images -/

theorem header_of_open (ho : ofImage path im tracing = (.ok h, trace)) :
    im.dword 0 = .ok headerSignature := by
  unfold ofImage at ho
  split at ho
  · cases ho
  · next record hrecord => exact (rootRecord_eq_ok.mp hrecord).header

theorem delivered_of_mem (ho : ofImage path im tracing = (.ok h, trace)) {n : Node}
    (hn : n = h.source.root ∨ ∃ parent, n ∈ Listing.good (h.source.children parent)) :
    im.Delivered .node n.handle Image.nodeFixedSize 0x48 n.storedName := by
  refine Image.delivered_of_node ?_
  rcases hn with rfl | ⟨parent, hn⟩
  · exact node_root ho
  · exact image_of_open ho ▸ h.node_of_mem_children hn

theorem delivered_of_mem_values (ho : ofImage path im tracing = (.ok h, trace)) {n : Node}
    {v : Value} (hv : v ∈ Listing.good (h.source.values n)) :
    im.Delivered .value v.handle Image.valueFixedSize 2 v.storedKey := by
  obtain ⟨cell, hcell⟩ := h.value_of_mem_values hv
  rw [image_of_open ho] at hcell
  have hread := Image.readAt_of_value hcell
  rw [← hread.handle] at hcell
  exact Image.delivered_of_value hcell

/-- **What an opened image has delivered is found again from its handle**: the length of a record
in use is that of its fixed part and its stored name, and so many bytes from its cell on end with
that name. About a record in a free cell every question is refused. -/
theorem handles_lead_back (ho : ofImage path im tracing = (.ok h, trace)) :
    (∀ n, (n = h.source.root ∨ ∃ parent, n ∈ Listing.good (h.source.children parent)) →
      (¬ im.FreeAt n.handle → im.RecordInside n.handle Image.nodeFixedSize 0x48 →
        h.source.nodeLength n = .ok (Image.nodeFixedSize + n.storedName.length : Nat) ∧
          im.LeadsBack .node n.handle Image.nodeFixedSize n.storedName) ∧
      (im.FreeAt n.handle →
        h.source.nodeLength n = .error (.noRecord .node n.handle none) ∧
        h.source.timestamp n = .error (.noRecord .node n.handle none) ∧
        h.source.children n = .error (.noRecord .node n.handle none) ∧
        h.source.values n = .error (.noRecord .node n.handle none))) ∧
    ∀ n v, v ∈ Listing.good (h.source.values n) →
      (¬ im.FreeAt v.handle → im.RecordInside v.handle Image.valueFixedSize 2 →
        h.source.valueLength v = .ok (Image.valueFixedSize + v.storedKey.length : Nat) ∧
          im.LeadsBack .value v.handle Image.valueFixedSize v.storedKey) ∧
      (im.FreeAt v.handle →
        h.source.valueLength v = .error (.noRecord .value v.handle none) ∧
        h.source.dataCell v = .error (.noRecord .value v.handle none)) := by
  have him := image_of_open ho
  have hheader := header_of_open ho
  subst him
  refine ⟨fun n hn => ⟨fun hfree hinside => ?_, fun hfree => ?_⟩,
    fun n v hv => ⟨fun hfree hinside => ?_, fun hfree => ?_⟩⟩
  · obtain ⟨hback, hword⟩ := (delivered_of_mem ho hn).leadsBack hheader hfree hinside
    exact ⟨Image.nodeLength_of_word hback.record hword, hback⟩
  · obtain ⟨hchildren, hvalues⟩ := lists_of_free hfree
    obtain ⟨hlength, htime⟩ := Image.node_of_free hfree
    exact ⟨hlength, htime, hchildren, hvalues⟩
  · obtain ⟨hback, hword⟩ := (delivered_of_mem_values ho hv).leadsBack hheader hfree hinside
    exact ⟨Image.valueLength_of_word hback.record hword, hback⟩
  · exact ⟨Image.valueLength_of_free hfree, Image.dataCell_of_free hfree⟩

/-! ## A value in use and one in a free cell -/

section Freed

open Layout

theorem not_freeAt_of_cellAt {im : Image} {distance : Nat} {content : Bytes}
    (h : CellAt im distance content) : ¬ im.FreeAt (place distance) := by
  rintro ⟨c, hc, hfree⟩
  rw [h.cell_eq] at hc
  cases hc
  rw [CellAt.not_free] at hfree
  cases hfree

/-- A record that was laid out lies in the image. -/
theorem recordInside_of_holds {im : Image} {distance fixed field n : Nat} {content : Bytes}
    (h : im.Holds (place distance + 4) content)
    (hword : im.word ((place distance + 4 : Nat) + field) = .ok n)
    (hlength : content.length + 4 = fixed + n) :
    im.RecordInside (place distance) fixed field := by
  have hfits := h.fits
  refine ⟨Int.add_nonneg (Int.natCast_nonneg _) (Int.natCast_nonneg _), n, hword, ?_⟩
  omega

/-- A value whose payload stands in a cell. -/
def heldValue : ValueDraft :=
  ⟨.oneByte "a", 3, [1, 2, 3, 4, 5, 6, 7, 8]⟩

/-- A value whose payload stands in its record. -/
def freedValue : ValueDraft :=
  ⟨.oneByte "b", 3, [7]⟩

/-- The root with these values. -/
def freedHead : KeyHead :=
  ⟨.oneByte "root", 0, true⟩

/-- A payload, the value that it is of, the slots of both values, and the key. -/
def freedCells : List Bytes :=
  [heldValue.payload, valueRecord heldValue 8 32, [48, 184].flatMap dword,
    keyRecord freedHead 0 noCell 2 80]

/-- The record of the other value, whose cell was given back: its size is stored as that of a free
cell. -/
def freedRecord : Bytes :=
  dword 32 ++ valueRecord freedValue 0x80000001 7

/-- An image with these cells, and the free one behind them. -/
def freedImage : Image :=
  imageOf 0 96 (freedCells.flatMap cellBytes ++ freedRecord)

theorem lengths_freedCells : freedCells.map List.length = [8, 21, 8, 80] := by
  simp only [freedCells, List.map_cons, List.map_nil, length_flatMap_dword, length_valueRecord,
    length_keyRecord]
  rfl

theorem cellAt_freedImage {i : Nat} (hi : i < 4) :
    CellAt freedImage (binHeaderSize + room ([8, 21, 8, 80].take i)) freedCells[i] := by
  have hbin : ∀ i < 4, binHeaderSize + room ([8, 21, 8, 80].take i) < 2 ^ 32 := by decide
  exact cellAt_imageOf_append 0 96 freedRecord lengths_freedCells hi (hbin i hi) (by decide)

theorem cellAt_heldValue : CellAt freedImage 48 (valueRecord heldValue 8 32) :=
  cellAt_freedImage (i := 1) (by decide)

theorem cellAt_freedRoot : CellAt freedImage 96 (keyRecord freedHead 0 noCell 2 80) :=
  cellAt_freedImage (i := 3) (by decide)

theorem headed_freedImage : Headed freedImage 96 :=
  headed_imageOf 0 _ (by decide)

theorem holds_freedRecord : freedImage.Holds (place 184) freedRecord := by
  have hh := imageOf_holds 0 96 (freedCells.flatMap cellBytes) freedRecord []
  rw [List.append_nil, length_flatMap_cellBytes, lengths_freedCells] at hh
  exact hh

theorem cell_freedRecord : freedImage.cell (place 184 : Int) = .ok ⟨place 184, 32⟩ := by
  have hn := holds_freedRecord.left.number
  rw [length_dword, littleEndian_dword (by decide)] at hn
  exact Image.cell_eq_ok.mpr ⟨32, hn, rfl⟩

theorem holds_freedValue :
    freedImage.Holds (place 184 + 4) (valueRecord freedValue 0x80000001 7) := by
  have hh := holds_freedRecord.right
  rwa [length_dword] at hh

/-- The hive in this image. -/
def freedHive : HiveFile :=
  opened "hive" freedImage false 96 freedHead

theorem open_freedImage : ∃ trace, ofImage "hive" freedImage false = (.ok freedHive, trace) :=
  ofImage_eq headed_freedImage (by decide) cellAt_freedRoot "hive" false

theorem values_freedImage :
    freedHive.source.values freedHive.root =
      .ok ([(place 48 : Int), (place 184 : Int)].map
        (entryAt .values freedImage.value (valueTrace "hive" false))) := by
  have hslots : SlotsAt freedImage 80 [48, 184] := .inr (cellAt_freedImage (i := 2) (by decide))
  exact values_eq "hive" false 96 freedHead headed_freedImage.binned hslots (by decide)
    cellAt_freedRoot

/-- The value in use is delivered. -/
theorem exists_heldValue : ∃ v ∈ Listing.good (freedHive.source.values freedHive.root),
    freedImage.value (place 48 : Int) = .ok v ∧ IsValue 48 heldValue v := by
  have hp : PayloadAt freedImage heldValue.payload 8 32 :=
    .direct (by decide) (by decide) (cellAt_freedImage (i := 0) (by decide))
  have hfits : heldValue.Fits :=
    ⟨by decide, by decide, by decide, by decide, by decide, by decide⟩
  obtain ⟨v, hv, hsame⟩ := value_eq headed_freedImage.binned hfits ⟨8, 32, hp, cellAt_heldValue⟩
  exact ⟨v, Listing.mem_good.mpr ⟨_, values_freedImage, _, List.mem_cons_self,
    outcome_entryAt.mpr hv⟩, hv, hsame⟩

/-- So is the other one. -/
theorem exists_freedValue : ∃ v ∈ Listing.good (freedHive.source.values freedHive.root),
    freedImage.value (place 184 : Int) = .ok v ∧ IsValue 184 freedValue v := by
  have hp : PayloadAt freedImage freedValue.payload 0x80000001 7 := .inline (by decide)
  have hfits : freedValue.Fits :=
    ⟨by decide, by decide, by decide, by decide, by decide, by decide⟩
  obtain ⟨v, hv, hsame⟩ :=
    value_of_holds headed_freedImage.binned hfits hp cell_freedRecord holds_freedValue
  exact ⟨v, Listing.mem_good.mpr ⟨_, values_freedImage, _,
    List.mem_cons_of_mem _ List.mem_cons_self, outcome_entryAt.mpr hv⟩, hv, hsame⟩

theorem freeAt_freedImage : freedImage.FreeAt (place 184) :=
  ⟨_, cell_freedRecord, rfl⟩

/-- The root and the value in use are found again, the other value is not. -/
theorem handles_lead_back_freedImage : ∃ h trace v w,
    ofImage "hive" freedImage false = (.ok h, trace) ∧
    v ∈ Listing.good (h.source.values h.source.root) ∧
    w ∈ Listing.good (h.source.values h.source.root) ∧
    h.source.nodeLength h.source.root = .ok (0x50 + 4 : Nat) ∧
    h.source.valueLength v = .ok (0x18 + 1 : Nat) ∧
    freedImage.LeadsBack .value v.handle 0x18 v.storedKey ∧
    h.source.valueLength w = .error (.noRecord .value w.handle none) := by
  obtain ⟨trace, ho⟩ := open_freedImage
  obtain ⟨v, hvmem, -, hv⟩ := exists_heldValue
  obtain ⟨w, hwmem, -, hw⟩ := exists_freedValue
  obtain ⟨hnodes, hvalues⟩ := handles_lead_back ho
  have hroot : freedImage.RecordInside (place 96) Image.nodeFixedSize 0x48 :=
    recordInside_of_holds cellAt_freedRoot.content_holds
      (nameLength_eq cellAt_freedRoot.content_holds (by decide)) (by rw [length_keyRecord]; rfl)
  have hheld : freedImage.RecordInside v.handle Image.valueFixedSize 2 := by
    rw [hv.handle]
    exact recordInside_of_holds cellAt_heldValue.content_holds
      (valueNameLength_eq (by decide) cellAt_heldValue.content_holds)
      (by rw [length_valueRecord]; rfl)
  have hused : ¬ freedImage.FreeAt v.handle := by
    rw [hv.handle]
    exact not_freeAt_of_cellAt cellAt_heldValue
  obtain ⟨hlength, -⟩ :=
    (hnodes _ (.inl rfl)).1 (not_freeAt_of_cellAt cellAt_freedRoot) hroot
  obtain ⟨hvlength, hback⟩ := (hvalues _ v hvmem).1 hused hheld
  rw [hv.storedKey] at hvlength
  refine ⟨freedHive, trace, v, w, ho, hvmem, hwmem, hlength, hvlength, hback, ?_⟩
  exact ((hvalues _ w hwmem).2 (by rw [hw.handle]; exact freeAt_freedImage)).1

end Freed

end HiveFile

end HiveDump
