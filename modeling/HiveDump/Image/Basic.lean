import HiveDump.Bytes
import HiveDump.Failing
import HiveDump.Fault

/-!
# Images

An `Image` is the content of a hive file. Its numbers are stored with the low byte first and are
read at an offset that other numbers of the image name, so an offset may lie anywhere:

* behind the end of the image nothing can be read;
* a negative offset counts from the end of the image, as long as the bytes read stay in front of
  the end and the offset is not longer than the image.

Main statement: `read_eq_ok_iff`, a read succeeds exactly at the offsets that `Readable` describes.
-/

namespace HiveDump

/-- The content of a hive file. -/
structure Image where
  bytes : ByteArray

namespace Image

/-- The number of bytes. -/
def size (im : Image) : Nat :=
  im.bytes.size

/-- Where `width` bytes at an offset start, counted from the start of the image. -/
def locate (im : Image) (offset : Int) (width : Nat) : Except RecordFault Nat :=
  if 0 ≤ offset then
    if offset + width ≤ im.size then .ok offset.toNat
    else .error (.pastEnd offset width im.size)
  else if 0 < offset + width then .error (.acrossStart offset width)
  else if offset + im.size < 0 then .error (.beforeStart offset im.size)
  else .ok (offset + im.size).toNat

/-- The bytes between two positions that lie in the image. -/
def between (im : Image) (start stop : Nat) : Bytes :=
  (im.bytes.extract start stop).data.toList

/-- `width` bytes at an offset. -/
def read (im : Image) (offset : Int) (width : Nat) : Except RecordFault Bytes :=
  (im.locate offset width).map fun start => im.between start (start + width)

/-- The bytes between two positions, of which as many as lie in the image. -/
def slice (im : Image) (start stop : Int) : Bytes :=
  im.between (Bytes.index im.size start) (Bytes.index im.size stop)

/-- The number stored in `width` bytes. -/
def number (im : Image) (offset : Int) (width : Nat) : Except RecordFault Nat :=
  (im.read offset width).map Bytes.littleEndian

/-- A number of two bytes. -/
def word (im : Image) (offset : Int) : Except RecordFault Nat :=
  im.number offset 2

/-- A number of four bytes. -/
def dword (im : Image) (offset : Int) : Except RecordFault Nat :=
  im.number offset 4

/-- A number of eight bytes. -/
def qword (im : Image) (offset : Int) : Except RecordFault Nat :=
  im.number offset 8

/-- A number of four bytes in two's complement. -/
def signedDword (im : Image) (offset : Int) : Except RecordFault Int :=
  (im.dword offset).map fun n => (n : Int).bmod 0x100000000

/-! ## Where reading succeeds -/

/-- The offsets at which `width` bytes can be read. -/
def Readable (im : Image) (offset : Int) (width : Nat) : Prop :=
  (0 ≤ offset ∧ offset + width ≤ im.size) ∨ (offset < 0 ∧ offset + width ≤ 0 ∧ 0 ≤ offset + im.size)

/-- A number can be read at no more than `2 * size` offsets. -/
theorem length_le_of_readable {im : Image} {offsets : List Int} {width : Nat} (hw : 0 < width)
    (hn : offsets.Nodup) (hr : ∀ o ∈ offsets, im.Readable o width) :
    offsets.length ≤ 2 * im.size := by
  have hsub : offsets ⊆ (List.range (2 * im.size)).map fun i : Nat => (i : Int) - im.size := by
    intro o ho
    have h := hr o ho
    unfold Readable at h
    refine List.mem_map.mpr ⟨(o + im.size).toNat, List.mem_range.mpr ?_, ?_⟩ <;> omega
  simpa using hn.length_le_of_subset hsub

theorem locate_eq_ok_iff (im : Image) (offset : Int) (width : Nat) :
    (∃ start, im.locate offset width = .ok start) ↔ im.Readable offset width := by
  unfold locate Readable
  split
  · split <;> simp <;> omega
  · split
    · simp; omega
    · split <;> simp <;> omega

theorem read_eq_ok_iff (im : Image) (offset : Int) (width : Nat) :
    (∃ b, im.read offset width = .ok b) ↔ im.Readable offset width := by
  rw [← locate_eq_ok_iff]
  unfold read
  cases im.locate offset width <;> simp [Except.map]

theorem number_eq_ok {im : Image} {offset : Int} {width n : Nat} :
    im.number offset width = .ok n ↔ ∃ b, im.read offset width = .ok b ∧ b.littleEndian = n :=
  Failing.map_eq_ok

theorem readable_of_number {im : Image} {offset : Int} {width n : Nat}
    (h : im.number offset width = .ok n) : im.Readable offset width := by
  obtain ⟨b, hb, -⟩ := number_eq_ok.mp h
  exact (im.read_eq_ok_iff offset width).mp ⟨b, hb⟩

end Image

end HiveDump
