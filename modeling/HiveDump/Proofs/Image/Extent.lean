import HiveDump.Proofs.Image.Values

/-!
# How far records and payloads go

What was read of an image tells how far the image goes. A name or a payload that was read in full
lies in the image, and so does the record or the cell around it; one that is cut off was read up to
the end of the image. This holds for offsets from the start of the image: a negative offset counts
from its end.

The bytes of a payload in segments do not stand in the cell that its value names, so nothing follows
for the length that the value tells of that cell.

Results:
* `slice_fits`, `cell_fits`: bytes that were read lie in the image;
* **`Whole.spans`**: a record that was read in full; `storedName_of_node`, `storedKey_of_value`: the
  names that records of nodes and values end with;
* **`dataCell_spans`**: a payload in one cell.
-/

namespace HiveDump.Image

variable {im : Image} {offset start stop length : Int}

/-- Whether a stretch of bytes lies in an image. -/
def Spans (im : Image) (offset length : Int) : Prop :=
  0 ≤ offset ∧ 0 ≤ length ∧ offset + length ≤ im.size

/-! ## Bytes that were read -/

theorem slice_fits (hstart : 0 ≤ start) (hne : im.slice start stop ≠ []) :
    start + (im.slice start stop).length ≤ im.size := by
  obtain ⟨n, rfl⟩ := Int.eq_ofNat_of_zero_le hstart
  have hpos := List.length_pos_iff.mpr hne
  have hlength : (im.slice n stop).length ≤ im.size - min n im.size := by
    rw [slice, Bytes.index_natCast, between_eq, List.length_take, List.length_drop, length_toList]
    exact Nat.min_le_right _ _
  omega

/-- A cell has its size in front of its content. -/
theorem cell_fits {c : Cell} (h : im.cell offset = .ok c) (hstart : 0 ≤ offset) :
    offset + cellHeaderSize ≤ im.size := by
  obtain ⟨stored, hs, -⟩ := cell_eq_ok.mp h
  have hreadable := readable_of_number hs
  unfold Readable at hreadable
  unfold cellHeaderSize
  omega

/-! ## Records -/

/-- Whether a record in a cell was read in full, which has a fixed part and a name behind it: the
name is as long as it was to be, and the fixed part is not cut off if the name is empty. -/
structure Whole (im : Image) (handle : Int) (fixed : Nat) (name : Bytes) (length : Int) : Prop where
  headed : name = [] → handle + fixed ≤ im.size
  named : length = fixed + name.length

/-- **A record that was read in full lies in the image.** -/
theorem Whole.spans {handle : Int} {fixed : Nat}
    (h : im.Whole handle fixed (im.slice (handle + fixed) stop) length) (hstart : 0 ≤ handle) :
    im.Spans handle length := by
  have hlength := h.named
  refine ⟨hstart, by omega, ?_⟩
  by_cases hname : im.slice (handle + fixed) stop = []
  · have hfixed := h.headed hname
    rw [hname, List.length_nil] at hlength
    omega
  · have hfits := slice_fits (by omega) hname
    omega

theorem storedName_of_node {cell : Int} {n : Node} (h : im.node cell = .ok n) :
    n.handle = cell ∧ ∃ stop, n.storedName = im.slice (cell + nodeFixedSize) stop := by
  refine ⟨handle_of_node h, ?_⟩
  obtain ⟨c, hc, -, hn⟩ := node_eq_ok.mp h
  obtain ⟨stored, -, rfl⟩ := cell_eq_ok.mp hc
  obtain ⟨nameLength, -, hn⟩ := Failing.bind_eq_ok.mp hn
  obtain ⟨flags, -, hn⟩ := Failing.bind_eq_ok.mp hn
  cases hn
  have hplace : cell + nodeFixedSize = cell + cellHeaderSize + 0x4C := by
    unfold nodeFixedSize cellHeaderSize
    omega
  exact ⟨_, by rw [hplace]; rfl⟩

theorem storedKey_of_value {cell : Int} {v : Value} (h : im.value cell = .ok v) :
    v.handle = cell ∧ ∃ stop, v.storedKey = im.slice (cell + valueFixedSize) stop := by
  have hread := readAt_of_value h
  refine ⟨hread.handle, ?_⟩
  obtain ⟨nameLength, -, hhead⟩ := Failing.bind_eq_ok.mp hread.head
  obtain ⟨flags, -, hhead⟩ := Failing.bind_eq_ok.mp hhead
  obtain ⟨kind, -, hhead⟩ := Failing.bind_eq_ok.mp hhead
  have hstored := congrArg Prod.fst (Except.ok.inj hhead)
  have hplace : cell + valueFixedSize = cell + cellHeaderSize + 0x14 := by
    unfold valueFixedSize cellHeaderSize
    omega
  exact ⟨_, by rw [hplace]; exact hstored.symm⟩

/-! ## Payloads -/

/-- Whether the cell at an offset holds a record that names the segments of a payload of a
length. -/
def NamesSegments (im : Image) (offset : Int) (length : Nat) : Prop :=
  ∃ c, im.cell offset = .ok c ∧ im.holdsSegments c length = .ok true

/-- A cell that has as many bytes as it was to have. -/
theorem spans_of_cellBytes {c : Cell} {n : Nat} (hc : im.cell offset = .ok c)
    (hstart : 0 ≤ offset) (hpos : 0 < n) (hfound : ((im.cellBytes c).take n).length = n) :
    im.Spans offset (n + cellHeaderSize) := by
  obtain ⟨stored, -, rfl⟩ := cell_eq_ok.mp hc
  generalize hplace : Cell.mk offset ((stored : Int).bmod 0x100000000) = c at hfound
  have hcontent : c.content = offset + cellHeaderSize := hplace ▸ rfl
  rw [List.length_take] at hfound
  have hle : n ≤ (im.cellBytes c).length := by omega
  have hne : im.cellBytes c ≠ [] := List.ne_nil_of_length_pos (by omega)
  have hfits : c.content + (im.cellBytes c).length ≤ im.size := slice_fits (by omega) hne
  exact ⟨hstart, by omega, by omega⟩

/-- **A payload in one cell lies in the image.** The record of its value names the cell and the
length, and the payload was read from there. -/
theorem dataCell_spans {cell : Int} {v : Value} (hv : im.value cell = .ok v)
    (hdata : im.dataCell v = .ok (offset, length)) (hlength : inlineLimit < length) :
    (∃ c, im.cell offset = .ok c) ∧
      (0 ≤ offset → im.Spans offset length ∨
        im.NamesSegments offset (length - cellHeaderSize).toNat) := by
  obtain ⟨-, rfl, -, hpayload, -, -⟩ := readAt_of_value hv
  obtain ⟨record, hrecord, hdata⟩ := Failing.bind_eq_ok.mp hdata
  rcases recordOfHandle_cases im .value v.handle with hplace | ⟨reason, hplace⟩
  case inr =>
    rw [hplace] at hrecord
    cases hrecord
  rw [hplace] at hrecord
  cases hrecord
  obtain ⟨field, hfield, hdata⟩ := Failing.bind_eq_ok.mp (Failing.mapError_eq_ok.mp hdata)
  obtain ⟨field', hfield', hpayload⟩ := Failing.bind_eq_ok.mp hpayload
  rw [hfield] at hfield'
  cases hfield'
  by_cases hinline : field.isInline = true
  · rw [if_pos hinline] at hdata
    cases hdata
    exact absurd hlength (by decide)
  rw [if_neg hinline] at hdata hpayload
  obtain ⟨linked, hlinked, hdata⟩ := Failing.bind_eq_ok.mp hdata
  cases hdata
  obtain ⟨c, hc, hpayload⟩ := Failing.bind_eq_ok.mp hpayload
  obtain ⟨place, hplace', hcell⟩ := Failing.bind_eq_ok.mp (Failing.mapError_eq_ok.mp hc)
  rw [hlinked] at hplace'
  cases hplace'
  refine ⟨⟨c, hcell⟩, fun hstart => ?_⟩
  have hbytes : ((field.bytes : Int) + 4 - cellHeaderSize).toNat = field.bytes := by
    unfold cellHeaderSize
    omega
  rw [hbytes]
  obtain ⟨held, hheld, hpayload⟩ := Failing.bind_eq_ok.mp hpayload
  cases held with
  | true => exact .inr ⟨c, hcell, Failing.mapError_eq_ok.mp hheld⟩
  | false =>
    rw [if_neg Bool.false_ne_true] at hpayload
    dsimp only at hpayload
    split at hpayload
    case isFalse => cases hpayload
    case isTrue hfound =>
      have hpos : 0 < field.bytes := by
        unfold inlineLimit at hlength
        omega
      exact .inl (spans_of_cellBytes hcell hstart hpos hfound)

end HiveDump.Image

/-! ## Images that were laid out -/

namespace HiveDump.Layout

open Report

variable {im : Image} {path : String} {tracing : Bool} {root distance : Nat} {rootHead : KeyHead}

/-- The byte run of a key is its record. -/
theorem nodeRuns_sourceOf {head : KeyHead} {subkeyCount subkeys valueCount values : Nat}
    (h : CellAt im distance (keyRecord head subkeyCount subkeys valueCount values))
    (hf : head.Fits) :
    nodeRuns (sourceOf path im tracing root rootHead) (nodeOf distance head) =
      .ok [((place distance : Int),
        ((Image.nodeFixedSize + head.name.bytes.length : Nat) : Int))] := by
  have hlength : (sourceOf path im tracing root rootHead).nodeLength (nodeOf distance head) = _ :=
    nodeLength_eq h hf
  unfold nodeRuns
  rw [hlength]
  rfl

/-- The byte runs of a value are its record and, behind the size of a cell, its payload. -/
theorem valueRuns_sourceOf {v : ValueDraft} {length start : Nat} (hb : Binned im)
    (h : CellAt im distance (valueRecord v length start)) (hf : v.name.Fits) (hpos : 0 < length)
    (hl : length < 2 ^ 31) (hs : start < 2 ^ 32) {w : Value} (hw : w.handle = place distance) :
    valueRuns (sourceOf path im tracing root rootHead) w =
      .ok [((place distance : Int), ((Image.valueFixedSize + v.name.bytes.length : Nat) : Int)),
        ((place start : Int), (length : Int) + 4)] := by
  have hlength : (sourceOf path im tracing root rootHead).valueLength w = _ :=
    valueLength_eq hf h hw
  have hcell : (sourceOf path im tracing root rootHead).dataCell w = _ := dataCell_eq hb h hl hs hw
  have hlong : inlineLimit < (length : Int) + 4 := by
    unfold inlineLimit
    omega
  unfold valueRuns
  rw [hlength]
  dsimp only
  rw [hcell]
  dsimp only
  rw [if_pos hlong, hw]

end HiveDump.Layout
