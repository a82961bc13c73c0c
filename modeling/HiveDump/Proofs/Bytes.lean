import HiveDump.Bytes
import Mathlib.Algebra.Group.Nat.Defs

/-!
# Numbers in bytes

A number that is stored in some bytes, least significant first, is read back from them, but for
what does not fit.

Results:
* **`littleEndian_ofLittleEndian`**: a stored number is read back modulo the width;
* **`ofLittleEndian_littleEndian`**, `ofBigEndian_bigEndian`: a string of bytes is what is stored of
  its number;
* `littleEndian_lt`, `bigEndian_lt`: that number fits the string.
-/

namespace HiveDump.Bytes

theorem littleEndian_ofLittleEndian (w n : Nat) :
    littleEndian (ofLittleEndian w n) = n % 256 ^ w := by
  induction w generalizing n with
  | zero => simp [ofLittleEndian, littleEndian, Nat.mod_one]
  | succ w ih =>
    have hmod : n % 256 ^ (w + 1) = n % 256 + 256 * (n / 256 % 256 ^ w) := by
      rw [Nat.pow_succ, Nat.mul_comm, Nat.mod_mul]
    simp [ofLittleEndian, littleEndian, ih, hmod]

theorem ofLittleEndian_littleEndian (b : Bytes) :
    ofLittleEndian b.length (littleEndian b) = b := by
  induction b with
  | nil => rfl
  | cons x xs ih =>
    have hx := x.toNat_lt
    have hdiv : (x.toNat + 256 * littleEndian xs) / 256 = littleEndian xs := by omega
    have hbyte : UInt8.ofNat (x.toNat + 256 * littleEndian xs) = x := by
      apply UInt8.toNat_inj.mp
      simp only [UInt8.toNat_ofNat']
      omega
    simp [ofLittleEndian, littleEndian, hdiv, ih, hbyte]

theorem littleEndian_lt (b : Bytes) : littleEndian b < 256 ^ b.length := by
  induction b with
  | nil => simp [littleEndian]
  | cons x xs ih =>
    have hx := x.toNat_lt
    simp only [littleEndian, List.length_cons, Nat.pow_succ]
    omega

theorem ofBigEndian_bigEndian (b : Bytes) : ofBigEndian b.length (bigEndian b) = b := by
  have h := ofLittleEndian_littleEndian b.reverse
  rw [List.length_reverse] at h
  rw [ofBigEndian, bigEndian, h, List.reverse_reverse]

theorem bigEndian_lt (b : Bytes) : bigEndian b < 256 ^ b.length := by
  have h := littleEndian_lt b.reverse
  rwa [List.length_reverse] at h

end HiveDump.Bytes
