import HiveDump.Bytes
import HiveDump.Text.Utf16

/-!
# Escapes of source text

Two ways to write every character in ASCII or nearly so: a backslash, a letter and the digits of
the character's code in base 16.
-/

namespace HiveDump

/-- Which characters are escaped, and how. -/
inductive SourceEscape
  /-- Those from U+00A0, with four digits below U+10000 and eight from there. -/
  | characters
  /-- Those from U+0080, with four digits for each unit of UTF-16. -/
  | units
  deriving DecidableEq, Repr

namespace SourceEscape

/-- The digits of a number in base 16, at least `width` of them. -/
def digits (width n : Nat) : List Char :=
  let ds := Nat.toDigits 16 n
  List.replicate (width - ds.length) '0' ++ ds

/-- A character as it is written. -/
def escape (e : SourceEscape) (c : Char) : List Char :=
  match e with
  | characters =>
    if c.toNat < 0xA0 then [c]
    else if c.toNat < 0x10000 then '\\' :: 'u' :: digits 4 c.toNat
    else '\\' :: 'U' :: digits 8 c.toNat
  | units =>
    if c.toNat < 0x80 then [c]
    else (Utf16.unitsOf c).flatMap fun unit => '\\' :: 'u' :: digits 4 unit

/-- The bytes of a character. -/
def encode (e : SourceEscape) (c : Char) : Bytes :=
  (e.escape c).map fun d => UInt8.ofNat d.toNat

end SourceEscape

end HiveDump
