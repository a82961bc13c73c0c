/-!
# Byte strings

A payload, a stored name and a written document are lists of bytes. This module holds what the
rest of the library does with them:

* `Bytes.slice` cuts a piece out by two positions; a negative position counts from the end, and
  positions outside the string are moved to its nearer end;
* `Bytes.littleEndian` and `Bytes.bigEndian` read a number, `Bytes.ofLittleEndian` and
  `Bytes.ofBigEndian` store one in a given width, dropping what does not fit.
-/

namespace HiveDump

/-- A string of bytes. -/
abbrev Bytes := List UInt8

namespace Bytes

/-! ## Positions and slices -/

/-- The index that position `i` names in a string of `size` bytes. -/
def index (size : Nat) (i : Int) : Nat :=
  if i < 0 then (i + size).toNat else min i.toNat size

/-- The bytes from position `start` up to, but not including, position `stop`. -/
def slice (b : Bytes) (start stop : Int) : Bytes :=
  (b.take (index b.length stop)).drop (index b.length start)

@[simp] theorem index_natCast (size n : Nat) : index size n = min n size := by
  have h : ¬ ((n : Int) < 0) := by omega
  simp [index, h]

/-- Between two positions from the start stands what the bytes up to the second one have behind the
first. -/
theorem slice_natCast (b : Bytes) (start stop : Nat) :
    slice b start stop = (b.take stop).drop start := by
  have htake : b.take (min stop b.length) = b.take stop := by
    rw [List.take_eq_take_iff]
    omega
  rw [slice, index_natCast, index_natCast, htake, List.drop_eq_drop_iff, List.length_take]
  omega

@[simp] theorem slice_zero (b : Bytes) (n : Nat) : slice b 0 n = b.take n :=
  slice_natCast b 0 n

/-! ## Numbers -/

/-- The number whose least significant byte comes first. -/
def littleEndian : Bytes → Nat
  | [] => 0
  | b :: bs => b.toNat + 256 * littleEndian bs

/-- The number whose most significant byte comes first. -/
def bigEndian (b : Bytes) : Nat :=
  littleEndian b.reverse

/-- The `width` low bytes of `n`, least significant first. -/
def ofLittleEndian : (width n : Nat) → Bytes
  | 0, _ => []
  | w + 1, n => UInt8.ofNat n :: ofLittleEndian w (n / 256)

/-- The `width` low bytes of `n`, most significant first. -/
def ofBigEndian (width n : Nat) : Bytes :=
  (ofLittleEndian width n).reverse

@[simp] theorem length_ofLittleEndian (w n : Nat) : (ofLittleEndian w n).length = w := by
  induction w generalizing n with
  | zero => rfl
  | succ w ih => simp [ofLittleEndian, ih]

end Bytes

end HiveDump
