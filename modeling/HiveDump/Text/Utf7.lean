import HiveDump.Text.Base64
import HiveDump.Text.Utf16

/-!
# UTF-7 text

Letters, digits and a few signs stand for themselves. Other characters are written as the base64
digits of their UTF-16 units, high bits first, between a plus sign and the next character that
stands for itself; a minus sign separates them if that character could be taken for a digit. Bits
that do not fill a digit are completed by zeros there, but not at the end of the text, where they
are not written.
-/

namespace HiveDump.Utf7

/-- Bits that are left over from the last digit. -/
structure Rest where
  size : Nat := 0
  bits : Nat := 0
  deriving DecidableEq, Repr

/-- The byte of a base64 digit. -/
def digit (n : Nat) : UInt8 :=
  UInt8.ofNat (Base64.digit n).toNat

/-- Whether a character stands for itself. -/
def isDirect (c : Char) : Bool :=
  c.isAlphanum || "'(),-./:? \t\n\r".toList.contains c

/-- Whether a character looks like a digit or like the end of digits. -/
def isDigitLike (c : Char) : Bool :=
  c == '-' || (Base64.value? c).isSome

/-- The digits that bits and further 16 bits fill, and what is left over. -/
def Rest.add (r : Rest) (unit : Nat) : Bytes × Rest :=
  let size := r.size + 16
  let bits := r.bits * 0x10000 + unit
  ((List.range (size / 6)).map fun i => digit (bits >>> (size - 6 * (i + 1)) % 64),
    { size := size % 6, bits := bits % 1 <<< (size % 6) })

/-- The digits of a character. -/
def Rest.addChar (r : Rest) (c : Char) : Bytes × Rest :=
  (Utf16.unitsOf c).foldl (fun (out, r) unit => let (digits, r) := r.add unit; (out ++ digits, r))
    ([], r)

/-- The end of digits in front of a character that stands for itself. -/
def Rest.close (r : Rest) (c : Char) : Bytes :=
  (if r.size = 0 then [] else [digit (r.bits <<< (6 - r.size))]) ++
    if isDigitLike c then [UInt8.ofNat '-'.toNat] else []

/-- The bytes of a character behind direct text (`none`) or behind digits, and what is behind it
then. -/
def put (state : Option Rest) (c : Char) : Bytes × Option Rest :=
  let byte := UInt8.ofNat c.toNat
  let plus := UInt8.ofNat '+'.toNat
  match state with
  | none =>
    if isDirect c then ([byte], none)
    else if c = '+' then ([plus, UInt8.ofNat '-'.toNat], none)
    else
      let (digits, r) := Rest.addChar {} c
      (plus :: digits, some r)
  | some r =>
    if isDirect c then (r.close c ++ [byte], none)
    else
      let (digits, r) := r.addChar c
      (digits, some r)

/-- The bytes of a text. -/
def encode (text : List Char) : Bytes :=
  (text.foldl (fun (out, state) c => let (b, state) := put state c; (out ++ b, state))
    ((#[] : Array UInt8), none)).1.toList

end HiveDump.Utf7
