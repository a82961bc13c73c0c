import HiveDump.Proofs.Image.Handles

/-!
# The cells of payloads

A report tells of a value where its payload lies in the image. It reads this from the value's record,
which it finds from the handle, and the payload itself was read when a list delivered the value. If
the payload stands in one cell, the two name the same bytes: those behind the size of the cell, up
to the length that is told. If it stands in the record, no cell is told of.

Results:
* `dataCell_of_stores`: what is told goes by where the payload is stored;
* `Stores.slice_inCell`, `Stores.slice_inRecord`: which bytes of the image the payload is;
* **`dataCell_leads_back`**: the values of an image.
-/

namespace HiveDump

/-- Offset and length of the cell of a payload that is stored there. -/
def Storage.dataCell (l : PayloadLength) : Storage → Int × Int
  | .inRecord => (0, 0)
  | .inCell c | .inSegments c => (c.offset, (l.bytes : Int) + 4)

/-- No cell is told of exactly if the payload stands in the record: a cell has a length. -/
theorem Storage.dataCell_eq_zero_iff {l : PayloadLength} {place : Storage} :
    place.dataCell l = (0, 0) ↔ place = .inRecord := by
  constructor
  · intro h
    have hlength := congrArg Prod.snd h
    cases place with
    | inRecord => rfl
    | inCell c | inSegments c =>
      simp only [Storage.dataCell] at hlength
      omega
  · rintro rfl
    rfl

namespace Image

variable {im : Image} {l : PayloadLength} {place : Storage} {v : Value} {c : Cell}

/-- A slice that has as many bytes may as well end behind them. -/
theorem slice_eq_take {start stop : Int} {n : Nat} (hstart : 0 ≤ start)
    (hlength : ((im.slice start stop).take n).length = n) :
    im.slice start (start + n) = (im.slice start stop).take n := by
  have hle : n ≤ (im.slice start stop).length := by
    rw [List.length_take] at hlength
    omega
  rw [length_slice] at hle
  have hend : Bytes.index im.size (start + n) - Bytes.index im.size start = n := by
    have hstop := index_le im.size stop
    rw [index_of_nonneg _ hstart] at hle ⊢
    rw [index_of_nonneg _ (by omega)]
    omega
  simp only [slice, between_eq]
  rw [hend, List.take_take, Nat.min_eq_left hle]

theorem linked_of_payloadCell {record : Int} (h : im.payloadCell record = .ok c) :
    im.linked (record + 8) = .ok c.offset ∧ im.cell c.offset = .ok c := by
  obtain ⟨offset, hlinked, hcell⟩ := Failing.bind_eq_ok.mp h
  obtain ⟨stored, -, rfl⟩ := cell_eq_ok.mp hcell
  exact ⟨hlinked, hcell⟩

/-- The question about the cell of a payload is answered by where the payload is stored. -/
theorem dataCell_of_stores (hs : im.Stores v l place)
    (hr : im.recordOfHandle .value v.handle = .ok (v.handle + cellHeaderSize)) :
    im.dataCell v = .ok (place.dataCell l) := by
  have hknown := of_storage hs.storage
  have hlinked {c : Cell} (hinline : l.isInline = false)
      (hc : im.payloadCell (v.handle + cellHeaderSize) = .ok c) :
      im.dataCell v = .ok (c.offset, (l.bytes : Int) + 4) := by
    simp only [dataCell, hr, hs.field, hinline, (linked_of_payloadCell hc).1, bind, Except.bind,
      Bool.false_eq_true, if_false, pure, Except.pure, Failing.mapError_ok]
  cases place with
  | inRecord =>
    have hinline : l.isInline = true := hknown
    simp only [dataCell, hr, hs.field, hinline, bind, Except.bind, if_true, pure, Except.pure,
      Failing.mapError_ok, Storage.dataCell]
  | inCell c => exact hlinked hknown.1 hknown.2.1
  | inSegments c => exact hlinked hknown.1 hknown.2.1

/-- A value that a list delivered has its question answered exactly if its cell is in use. -/
theorem dataCell_eq_ok_iff {found : Int × Int} (hs : im.Stores v l place)
    (hrecord : im.record .value v.handle = .ok (v.handle + cellHeaderSize)) :
    im.dataCell v = .ok found ↔ ¬ im.FreeAt v.handle ∧ place.dataCell l = found := by
  by_cases hfree : im.FreeAt v.handle
  · rw [dataCell_of_free hfree]
    exact ⟨nofun, fun hfound => absurd hfree hfound.1⟩
  · rw [dataCell_of_stores hs (recordOfHandle_of_record hrecord hfree), Except.ok.injEq]
    exact ⟨fun hfound => ⟨hfree, hfound⟩, fun hfound => hfound.2⟩

/-- Only a payload that is too long for one cell is stored in segments. -/
theorem Stores.segmentSize_lt (hs : im.Stores v l (.inSegments c)) : segmentSize < l.bytes := by
  obtain ⟨-, -, hheld⟩ := of_storage hs.storage
  by_contra hle
  rw [holdsSegments, if_pos (Nat.not_lt.mp hle)] at hheld
  cases hheld

/-- The bytes of a payload in one cell stand behind the cell's size. -/
theorem Stores.slice_inCell (hs : im.Stores v l (.inCell c)) (hstart : 0 < c.offset) :
    v.raw.length = l.bytes ∧ c.offset + (l.bytes + 4) ≤ im.size ∧
      im.slice (c.offset + 4) (c.offset + (l.bytes + 4)) = v.raw := by
  have hraw := hs.raw
  rw [retrieve] at hraw
  split at hraw
  case isFalse => cases hraw
  case isTrue hfull =>
    have hraw := Except.ok.inj hraw
    have hcell := (linked_of_payloadCell (of_storage hs.storage).2.1).2
    have hcut : im.slice (c.offset + 4) (c.offset + 4 + l.bytes) = v.raw := by
      rw [← hraw]
      exact slice_eq_take (by omega) hfull
    have hlength : v.raw.length = l.bytes := by
      rw [← hraw, hfull]
    have hfour : c.offset + 4 + l.bytes = c.offset + (l.bytes + 4) := by omega
    refine ⟨hlength, ?_, by rwa [← hfour]⟩
    by_cases hempty : v.raw = []
    · have hfits := cell_fits hcell (by omega)
      unfold cellHeaderSize at hfits
      rw [hempty, List.length_nil] at hlength
      omega
    · rw [← hcut] at hempty
      have hfits := slice_fits (by omega) hempty
      rw [hcut, hlength] at hfits
      omega

/-- The bytes of a payload in a record stand in place of the distance of a cell. -/
theorem Stores.slice_inRecord {cell : Int} (hs : im.Stores v l .inRecord)
    (h : im.value cell = .ok v) (hstart : 0 ≤ v.handle) :
    v.raw = im.slice (v.handle + 12) (v.handle + 12 + v.length) := by
  have hfull : v.raw.length = l.declared := by
    refine (hs.length_raw h).2.mpr ?_
    rintro ⟨hneg, -⟩
    unfold cellHeaderSize at hneg
    omega
  have hraw := Except.ok.inj hs.raw
  have hplace : v.handle + cellHeaderSize + 8 = v.handle + 12 := by
    unfold cellHeaderSize
    omega
  rw [hplace] at hraw
  rw [(readAt_of_value h).length, hfull, hraw]

end Image

namespace HiveFile

variable {h : HiveFile}

/-! ## Values of images -/

/-- **The cell that an image tells of a value holds the value's payload**, behind its size and with
no byte missing, and none is told of exactly if the payload stands in the record. That is so for
values in cells in use; about others the question is refused. A payload in segments stands
elsewhere. -/
theorem dataCell_leads_back {n : Node} {v : Value} (hv : v ∈ Listing.good (h.source.values n))
    (hstart : 0 ≤ v.handle) (hdirect : ∀ l c, ¬ h.image.Stores v l (.inSegments c)) :
    (∀ offset length, h.source.dataCell v = .ok (offset, length) → 0 < offset →
      length = v.length + 4 ∧ offset + length ≤ h.image.size ∧
        h.image.slice (offset + 4) (offset + length) = v.raw) ∧
    (h.source.dataCell v = .ok (0, 0) ↔
      ¬ h.image.FreeAt v.handle ∧ ∃ l, h.image.Stores v l .inRecord) ∧
    (∀ l, h.image.Stores v l .inRecord →
      v.raw = h.image.slice (v.handle + 12) (v.handle + 12 + v.length)) ∧
    (¬ h.image.FreeAt v.handle → ∃ found, h.source.dataCell v = .ok found) ∧
    (h.image.FreeAt v.handle →
      h.source.dataCell v = .error (.noRecord .value v.handle none)) := by
  obtain ⟨cell, hcell⟩ := h.value_of_mem_values hv
  have hread := Image.readAt_of_value hcell
  rw [← hread.handle] at hcell
  obtain ⟨l, place, hs⟩ := Image.exists_stores hcell
  have hanswer {found : Int × Int} :
      h.source.dataCell v = .ok found ↔ ¬ h.image.FreeAt v.handle ∧ place.dataCell l = found :=
    Image.dataCell_eq_ok_iff hs (Image.delivered_of_value hcell).record
  refine ⟨fun offset length hd hpos => ?_, ?_, fun l hs => hs.slice_inRecord hcell hstart,
    fun hfree => ⟨_, hanswer.mpr ⟨hfree, rfl⟩⟩, fun hfree => Image.dataCell_of_free hfree⟩
  · obtain ⟨-, hfound⟩ := hanswer.mp hd
    cases place with
    | inRecord =>
      cases hfound
      exact absurd hpos (Int.lt_irrefl 0)
    | inSegments c => exact absurd hs (hdirect l c)
    | inCell c =>
      cases hfound
      obtain ⟨hlength, hfits, hslice⟩ := hs.slice_inCell hpos
      exact ⟨by rw [hread.length, hlength], hfits, hslice⟩
  · rw [hanswer, Storage.dataCell_eq_zero_iff]
    refine and_congr_right fun _ => ⟨fun hplace => ⟨l, hplace ▸ hs⟩, ?_⟩
    rintro ⟨l', hs'⟩
    exact (hs.unique hs').2

section Freed

open Layout

/-- No cell is told of the payload in the free cell's record, nor that there is none. -/
theorem dataCell_freedImage : ∃ h trace w l, ofImage "hive" freedImage false = (.ok h, trace) ∧
    w ∈ Listing.good (h.source.values h.source.root) ∧ 0 ≤ w.handle ∧
    h.image.Stores w l .inRecord ∧ h.source.dataCell w ≠ .ok (0, 0) := by
  obtain ⟨trace, ho⟩ := open_freedImage
  obtain ⟨w, hwmem, hvalue, hw⟩ := exists_freedValue
  obtain ⟨l, place, hs⟩ := Image.exists_stores hvalue
  have hfree : freedImage.FreeAt w.handle := by
    rw [hw.handle]
    exact freeAt_freedImage
  have hfield : freedImage.payloadLength (w.handle + cellHeaderSize) = .ok ⟨0x80000001⟩ := by
    rw [hw.handle]
    exact payloadLength_eq holds_freedValue (by decide)
  obtain rfl : ⟨0x80000001⟩ = l := Except.ok.inj (hfield.symm.trans hs.field)
  obtain rfl : .inRecord = place :=
    Except.ok.inj ((Image.storage_of_inline (by decide)).symm.trans hs.storage)
  have hrefused : freedHive.source.dataCell w = .error (.noRecord .value w.handle none) :=
    Image.dataCell_of_free hfree
  refine ⟨freedHive, trace, w, _, ho, hwmem, ?_, hs, ?_⟩
  · rw [hw.handle]
    exact Int.natCast_nonneg _
  · rw [hrefused]
    exact nofun

theorem dataCell_leads_back_freedImage : ∃ v offset,
    v ∈ Listing.good (freedHive.source.values freedHive.root) ∧ 0 ≤ v.handle ∧
    (∀ l c, ¬ freedHive.image.Stores v l (.inSegments c)) ∧
    freedHive.source.dataCell v = .ok (offset, 12) ∧ 12 = v.length + 4 ∧
    freedHive.image.slice (offset + 4) (offset + 12) = v.raw ∧
    v.raw = [1, 2, 3, 4, 5, 6, 7, 8] := by
  obtain ⟨v, hmem, -, hv⟩ := exists_heldValue
  have hstart : 0 ≤ v.handle := by
    rw [hv.handle]
    exact Int.natCast_nonneg _
  have hdirect (l : PayloadLength) (c : Cell) :
      ¬ freedHive.image.Stores v l (.inSegments c) := by
    intro hs
    have hfield : freedImage.payloadLength (v.handle + cellHeaderSize) = .ok ⟨8⟩ := by
      rw [hv.handle]
      exact payloadLength_eq cellAt_heldValue.content_holds (by decide)
    obtain rfl : ⟨8⟩ = l := Except.ok.inj (hfield.symm.trans hs.field)
    exact absurd hs.segmentSize_lt (by decide)
  have hcell : freedHive.source.dataCell v = .ok ((place 32 : Int), 12) :=
    dataCell_eq headed_freedImage.binned cellAt_heldValue (by decide) (by decide) hv.handle
  have hpos : (0 : Int) < place 32 := by
    rw [place_eq]
    decide
  obtain ⟨hlength, -, hslice⟩ := (dataCell_leads_back hmem hstart hdirect).1 _ _ hcell hpos
  exact ⟨v, _, hmem, hstart, hdirect, hcell, hlength, hslice, hv.raw⟩

end Freed

end HiveFile

end HiveDump
