import HiveDump.Bytes
import HiveDump.Markup.Plane.Basic

/-!
# Two bytes for a character

What the encodings of the East Asian scripts have in common: ASCII has one byte, and a place in a
plane has two, which are usually the numbers of the row and of the place counted from A1.

Main statement: `euc_injective`, two places of a plane of 94 rows have different bytes.
-/

namespace HiveDump.Eastern

/-- The byte of a character of ASCII. -/
def ascii? (c : Char) : Option Bytes :=
  if c.toNat < 0x80 then some [UInt8.ofNat c.toNat] else none

/-- Two bytes. -/
def pair (lead trail : Nat) : Bytes :=
  [UInt8.ofNat lead, UInt8.ofNat trail]

/-- A place in a plane of 94 rows, both numbers counted from A1. -/
def euc (p : Nat × Nat) : Bytes :=
  pair (0xA1 + p.1) (0xA1 + p.2)

/-- The position of a character among those with codes from `first` to `last`. -/
def position? (first last : Nat) (c : Char) : Option Nat :=
  if first ≤ c.toNat ∧ c.toNat ≤ last then some (c.toNat - first) else none

/-- A few characters that are written differently than their plane says. -/
def exception? (table : List (Char × Nat)) (c : Char) : Option Bytes :=
  (table.lookup c).map fun code => if code < 0x100 then [UInt8.ofNat code] else
    pair (code / 0x100) (code % 0x100)

theorem euc_injective {a b : Nat × Nat} (ha : a.1 < 94 ∧ a.2 < 94) (hb : b.1 < 94 ∧ b.2 < 94)
    (h : euc a = euc b) : a = b := by
  have lead : UInt8.ofNat (0xA1 + a.1) = UInt8.ofNat (0xA1 + b.1) := (List.cons.inj h).1
  have trail : UInt8.ofNat (0xA1 + a.2) = UInt8.ofNat (0xA1 + b.2) :=
    (List.cons.inj (List.cons.inj h).2).1
  have := congrArg UInt8.toNat lead
  have := congrArg UInt8.toNat trail
  simp only [UInt8.toNat_ofNat'] at *
  exact Prod.ext (by omega) (by omega)

end HiveDump.Eastern
