import HiveDump.Image.Layout
import HiveDump.Proofs.Bytes
import HiveDump.Proofs.Image.Holds

/-!
# Cells that were laid out

A bin that starts where the header says names itself, so every distance in the image is counted
from there (`Binned.linked`). A cell that was laid out at a distance is read as an allocated cell
with its content behind it (`CellAt`).

Results:
* `Binned.origin`: distances are counted from the bin;
* **`CellAt.cell_eq`**: the cell at a distance is read as it was laid out;
* `CellAt.content_holds`, `CellAt.letters_eq`: and so is its content.
-/

namespace HiveDump.Layout

variable {im : Image} {distance : Nat} {content : Bytes}

/-! ## Numbers -/

theorem length_word (n : Nat) : (word n).length = 2 := Bytes.length_ofLittleEndian 2 n

theorem length_dword (n : Nat) : (dword n).length = 4 := Bytes.length_ofLittleEndian 4 n

theorem length_zeros (n : Nat) : (zeros n).length = n := List.length_replicate

theorem littleEndian_word {n : Nat} (h : n < 2 ^ 16) : Bytes.littleEndian (word n) = n := by
  rw [word, Bytes.littleEndian_ofLittleEndian]
  exact Nat.mod_eq_of_lt h

theorem littleEndian_dword {n : Nat} (h : n < 2 ^ 32) : Bytes.littleEndian (dword n) = n := by
  rw [dword, Bytes.littleEndian_ofLittleEndian]
  exact Nat.mod_eq_of_lt h

/-! ## Fields of a record -/

theorem drop_field {a : Bytes} {w : Nat} (h : a.length = w) (b : Bytes) (i : Nat) :
    (a ++ b).drop (i + w) = b.drop i := by
  rw [← h, Nat.add_comm]
  exact List.drop_length_add_append i

theorem take_field {a : Bytes} {w : Nat} (h : a.length = w) (b : Bytes) : (a ++ b).take w = a := by
  rw [← h]
  exact List.take_left

theorem length_signature (kind : RecordKind) : kind.signature.length = 2 := by
  cases kind <;> rfl

theorem drop_signature (kind : RecordKind) (b : Bytes) (i : Nat) :
    (kind.signature ++ b).drop (i + 2) = b.drop i :=
  drop_field (length_signature kind) b i

theorem drop_word (n : Nat) (b : Bytes) (i : Nat) : (word n ++ b).drop (i + 2) = b.drop i :=
  drop_field (length_word n) b i

theorem drop_dword (n : Nat) (b : Bytes) (i : Nat) : (dword n ++ b).drop (i + 4) = b.drop i :=
  drop_field (length_dword n) b i

theorem drop_qword (n : Nat) (b : Bytes) (i : Nat) :
    (Bytes.ofLittleEndian 8 n ++ b).drop (i + 8) = b.drop i :=
  drop_field (Bytes.length_ofLittleEndian 8 n) b i

theorem drop_zeros (b : Bytes) (i : Nat) : (zeros 20 ++ b).drop (i + 20) = b.drop i :=
  drop_field List.length_replicate b i

theorem take_signature (kind : RecordKind) (b : Bytes) :
    (kind.signature ++ b).take 2 = kind.signature :=
  take_field (length_signature kind) b

theorem take_word (n : Nat) (b : Bytes) : (word n ++ b).take 2 = word n :=
  take_field (length_word n) b

theorem take_dword (n : Nat) (b : Bytes) : (dword n ++ b).take 4 = dword n :=
  take_field (length_dword n) b

theorem take_qword (n : Nat) (b : Bytes) :
    (Bytes.ofLittleEndian 8 n ++ b).take 8 = Bytes.ofLittleEndian 8 n :=
  take_field (Bytes.length_ofLittleEndian 8 n) b

/-! ## Bins -/

/-- Where a distance from the bin leads. -/
@[irreducible] def place (distance : Nat) : Nat :=
  0x1000 + distance

theorem place_eq (distance : Nat) : (place distance : Int) = Image.binStart + distance := by
  unfold place
  simp [Image.binStart]

/-- Whether a bin starts where the header says. -/
def Binned (im : Image) : Prop :=
  ∃ size, im.Holds 0x1000 (binHeader size)

theorem length_binHeader (size : Nat) : (binHeader size).length = 0x20 := rfl

theorem Binned.checkBin (h : Binned im) : im.checkBin Image.binStart = .ok () := by
  obtain ⟨size, h⟩ := h
  have hsig : im.dword Image.binStart = .ok Image.binSignature := by
    rw [Image.dword, h.field 0 4 (by simp [Image.binStart]) (by rw [length_binHeader]; omega)]
    exact congrArg Except.ok (littleEndian_dword (by decide))
  obtain ⟨n, hn⟩ : ∃ n, im.dword (Image.binStart + 8) = .ok n :=
    ⟨_, h.field 8 4 (by simp [Image.binStart]) (by rw [length_binHeader]; omega)⟩
  simp only [Image.checkBin, hsig, hn, bind, Except.bind, ne_eq, not_true_eq_false, if_false]
  rfl

/-- Distances are counted from the bin. -/
theorem Binned.origin (h : Binned im) : im.origin = .ok Image.binStart := by
  have hcheck := h.checkBin
  obtain ⟨size, h⟩ := h
  have hzero : im.dword (Image.binStart + 4) = .ok 0 := by
    rw [Image.dword, h.field 4 4 (by simp [Image.binStart]) (by rw [length_binHeader]; omega)]
    exact congrArg Except.ok (littleEndian_dword (by decide))
  simp only [Image.origin, hzero, bind, Except.bind, Int.natCast_zero, Int.sub_zero, hcheck]
  rfl

/-- A distance that stands in a field leads to its place. -/
theorem Binned.linked (h : Binned im) {field : Int} {n : Nat} (hn : im.dword field = .ok n) :
    im.linked field = .ok (place n : Int) := by
  simp only [Image.linked, hn, h.origin, bind, Except.bind, place_eq]
  rfl

/-! ## Cells -/

/-- Whether a cell with this content was laid out at the distance. -/
structure CellAt (im : Image) (distance : Nat) (content : Bytes) : Prop where
  holds : im.Holds (place distance) (cellBytes content)
  distance_lt : distance < 2 ^ 32
  size_le : cellSize content.length ≤ 2 ^ 31

theorem le_cellSize (n : Nat) : n + 4 ≤ cellSize n := by
  unfold cellSize cellHeaderSize
  omega

/-- The size of a laid out cell is stored as a negative number. -/
theorem bmod_size {n : Nat} (hpos : 0 < n) (h : n ≤ 2 ^ 31) :
    (((0x100000000 - n : Nat) : Int)).bmod 0x100000000 = -(n : Int) := by
  rw [Int.bmod]
  omega

theorem CellAt.content_holds (h : CellAt im distance content) :
    im.Holds (place distance + 4) content := by
  have hh := h.holds
  rw [cellBytes] at hh
  have := hh.left.right
  rwa [length_dword] at this

/-- **The cell at a distance is read as it was laid out.** -/
theorem CellAt.cell_eq (h : CellAt im distance content) :
    im.cell (place distance : Int) = .ok ⟨place distance, -(cellSize content.length : Int)⟩ := by
  have hpos : 0 < cellSize content.length := Nat.lt_of_lt_of_le (by omega) (le_cellSize _)
  refine Image.cell_eq_ok.mpr ⟨0x100000000 - cellSize content.length, ?_, ?_⟩
  · have hh := h.holds
    rw [cellBytes] at hh
    have hn := hh.left.left.number
    rw [length_dword, littleEndian_dword (by omega)] at hn
    exact hn
  · rw [bmod_size hpos h.size_le]

theorem CellAt.not_free (n : Nat) :
    (Cell.isFree ⟨place distance, -(cellSize n : Int)⟩) = false := by
  have := le_cellSize n
  simp only [Cell.isFree, decide_eq_false_iff_not]
  omega

theorem content_eq (stored : Int) :
    Cell.content ⟨place distance, stored⟩ = ((place distance + 4 : Nat) : Int) := by
  simp [Cell.content, cellHeaderSize]

/-- The content of a laid out cell starts with its letters. -/
theorem CellAt.letters_eq (h : CellAt im distance content) (hlen : 2 ≤ content.length)
    (stored : Int) : im.letters ⟨place distance, stored⟩ = .ok (content.take 2) := by
  rw [Image.letters, content_eq]
  exact h.content_holds.letters_read hlen

/-- A record is found by its letters. -/
theorem checkRecord_eq (h : im.Holds (place distance + 4) content) (hlen : 2 ≤ content.length)
    {kind : RecordKind} (hk : content.take 2 = kind.signature) :
    im.checkRecord kind ((place distance + 4 : Nat) : Int) = .ok () := by
  simp only [Image.checkRecord, h.letters_read hlen, hk, bind, Except.bind, ne_eq,
    not_true_eq_false, if_false]
  rfl

/-- So it is in a cell of any size, in use or not. -/
theorem record_eq {stored : Int}
    (hc : im.cell (place distance : Int) = .ok ⟨place distance, stored⟩)
    (h : im.Holds (place distance + 4) content) (hlen : 2 ≤ content.length)
    {kind : RecordKind} (hk : content.take 2 = kind.signature) :
    im.record kind (place distance : Int) = .ok ((place distance + 4 : Nat) : Int) := by
  simp only [Image.record, hc, content_eq, checkRecord_eq h hlen hk, bind, Except.bind]
  rfl

theorem CellAt.record (h : CellAt im distance content) (hlen : 2 ≤ content.length)
    {kind : RecordKind} (hk : content.take 2 = kind.signature) :
    im.record kind (place distance : Int) = .ok ((place distance + 4 : Nat) : Int) :=
  record_eq h.cell_eq h.content_holds hlen hk

theorem CellAt.recordOfHandle (h : CellAt im distance content) (hlen : 2 ≤ content.length)
    {kind : RecordKind} (hk : content.take 2 = kind.signature) :
    im.recordOfHandle kind (place distance : Int) = .ok ((place distance + 4 : Nat) : Int) := by
  simp only [Image.recordOfHandle, h.cell_eq, CellAt.not_free, h.letters_eq hlen, hk, content_eq,
    bind, Except.bind, Bool.false_eq_true, if_false, ne_eq, not_true_eq_false]
  rfl

/-- What a laid out cell is said to hold. -/
theorem CellAt.child (h : CellAt im distance content) (hlen : 2 ≤ content.length)
    (hs : Content.ofLetters (content.take 2) ≠ .security) :
    im.child ⟨place distance, -(cellSize content.length : Int)⟩ =
      .ok (Content.ofLetters (content.take 2)) := by
  simp only [Image.child, CellAt.not_free, h.letters_eq hlen, bind, Except.bind,
    Bool.false_eq_true, if_false]
  rw [if_neg hs]
  rfl

/-- The bytes of a laid out cell start with its content. -/
theorem CellAt.take_cellBytes (h : CellAt im distance content) :
    (im.cellBytes ⟨place distance, -(cellSize content.length : Int)⟩).take content.length =
      content := by
  have hle := le_cellSize content.length
  refine h.content_holds.take_slice (content_eq _) ?_
  simp only [content_eq]
  omega

end HiveDump.Layout
