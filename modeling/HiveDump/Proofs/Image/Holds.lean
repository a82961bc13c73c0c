import HiveDump.Image.Cell

/-!
# Bytes at a place in an image

`Image.Holds` says which bytes stand at an offset of an image. A part of them stands at the offset
of the part (`Holds.part`), and what stands somewhere is what reading there gives: as bytes
(`Holds.read`), as a number (`Holds.field`), as a slice (`Holds.slice`) and as a cell
(`Holds.cell`).

Only offsets from the start of the image occur here. That a negative offset counts from the end
matters for images that nobody has laid out.
-/

namespace HiveDump.Image

variable {im : Image} {offset : Nat} {b : Bytes}

/-! ## An image as a list of bytes -/

/-- The bytes of an image. -/
def toList (im : Image) : Bytes :=
  im.bytes.data.toList

theorem length_toList (im : Image) : im.toList.length = im.size := rfl

theorem between_eq (im : Image) (start stop : Nat) :
    im.between start stop = (im.toList.drop start).take (stop - start) := by
  simp [between, toList, List.extract_eq_take_drop]

/-- The image of a list of bytes. -/
def ofList (b : Bytes) : Image :=
  ⟨b.toByteArray⟩

@[simp] theorem toList_ofList (b : Bytes) : (ofList b).toList = b := by
  simp [toList, ofList]

@[simp] theorem size_ofList (b : Bytes) : (ofList b).size = b.length := by
  rw [← length_toList, toList_ofList]

/-! ## What stands where -/

/-- Whether the bytes stand at the offset. -/
structure Holds (im : Image) (offset : Nat) (b : Bytes) : Prop where
  fits : offset + b.length ≤ im.size
  bytes : (im.toList.drop offset).take b.length = b

theorem holds_append {a c : Bytes} (h : im.toList = a ++ b ++ c) : im.Holds a.length b := by
  refine ⟨?_, ?_⟩
  · rw [← length_toList, h]
    simp
  · rw [h, List.append_assoc, List.drop_left, List.take_left]

/-- A part of what stands at an offset. -/
theorem Holds.part (h : im.Holds offset b) {i w : Nat} (hw : i + w ≤ b.length) :
    im.Holds (offset + i) ((b.drop i).take w) := by
  have hlen : ((b.drop i).take w).length = w := by
    rw [List.length_take, List.length_drop]
    omega
  refine ⟨?_, ?_⟩
  · have := h.fits
    omega
  · rw [hlen]
    conv => rhs; rw [← h.bytes]
    rw [List.drop_take, List.take_take, List.drop_drop, Nat.min_eq_left (by omega)]

theorem Holds.left {c : Bytes} (h : im.Holds offset (b ++ c)) : im.Holds offset b := by
  have := h.part (i := 0) (w := b.length) (by simp)
  simpa using this

theorem Holds.right {c : Bytes} (h : im.Holds offset (b ++ c)) :
    im.Holds (offset + b.length) c := by
  have := h.part (i := b.length) (w := c.length) (by simp)
  simpa using this

/-- Reading gives what stands there. -/
theorem Holds.read (h : im.Holds offset b) : im.read offset b.length = .ok b := by
  have hfits := h.fits
  have hloc : im.locate offset b.length = .ok offset := by
    unfold locate
    rw [if_pos (by omega), if_pos (by omega), Int.toNat_natCast]
  rw [Image.read, hloc]
  simp only [Except.map, between_eq, Nat.add_sub_cancel_left, h.bytes]

theorem Holds.number (h : im.Holds offset b) :
    im.number offset b.length = .ok b.littleEndian := by
  rw [Image.number, h.read]
  rfl

/-- A number that stands among other bytes. -/
theorem Holds.field (h : im.Holds offset b) (i w : Nat) {at' : Int} (ho : at' = offset + i)
    (hw : i + w ≤ b.length) : im.number at' w = .ok (Bytes.littleEndian ((b.drop i).take w)) := by
  have hp := (h.part hw).number
  rw [List.length_take, List.length_drop, Nat.min_eq_left (by omega)] at hp
  rw [ho, ← hp, Int.natCast_add]

/-- Letters in front of other bytes. -/
theorem Holds.letters_read (h : im.Holds offset b) (hw : 2 ≤ b.length) :
    im.read offset 2 = .ok (b.take 2) := by
  have hp := (h.part (i := 0) (w := 2) (by omega)).read
  rw [List.drop_zero, List.length_take, Nat.min_eq_left hw, Nat.add_zero] at hp
  exact hp

/-- A slice gives what stands there. -/
theorem Holds.slice (h : im.Holds offset b) {start stop : Int} (hstart : start = offset)
    (hstop : stop = offset + b.length) : im.slice start stop = b := by
  have hfits := h.fits
  have h1 : Bytes.index im.size start = offset := by
    rw [hstart, Bytes.index_natCast, Nat.min_eq_left (by omega)]
  have h2 : Bytes.index im.size stop = offset + b.length := by
    rw [hstop, ← Int.natCast_add, Bytes.index_natCast, Nat.min_eq_left hfits]
  rw [Image.slice, h1, h2, between_eq, Nat.add_sub_cancel_left, h.bytes]

/-- A slice that goes on behind what stands there starts with it. -/
theorem Holds.take_slice (h : im.Holds offset b) {start stop : Int} (hstart : start = offset)
    (hstop : (offset : Int) + b.length ≤ stop) : (im.slice start stop).take b.length = b := by
  have hfits := h.fits
  have h1 : Bytes.index im.size start = offset := by
    rw [hstart, Bytes.index_natCast, Nat.min_eq_left (by omega)]
  have h2 : offset + b.length ≤ Bytes.index im.size stop := by
    unfold Bytes.index
    rw [if_neg (by omega)]
    omega
  rw [Image.slice, h1, between_eq, List.take_take, Nat.min_eq_left (by omega), h.bytes]

end HiveDump.Image
