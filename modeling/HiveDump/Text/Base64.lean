import HiveDump.Bytes

/-!
# Base64

Three bytes are written as four characters of `A-Z a-z 0-9 + /`; one or two bytes at the end are
padded to four characters with `=`.

`encode` writes and `decode?` reads; the reader accepts exactly the texts the writer produces for
whole groups, so unused bits in front of a padding have to be zero.
-/

namespace HiveDump.Base64

/-- The character of a six-bit number. -/
def digit (n : Nat) : Char :=
  if n < 26 then Char.ofNat (65 + n)
  else if n < 52 then Char.ofNat (97 + (n - 26))
  else if n < 62 then Char.ofNat (48 + (n - 52))
  else if n = 62 then '+'
  else '/'

/-- The six-bit number of a character. -/
def value? (c : Char) : Option Nat :=
  if 'A' ≤ c ∧ c ≤ 'Z' then some (c.toNat - 65)
  else if 'a' ≤ c ∧ c ≤ 'z' then some (c.toNat - 97 + 26)
  else if '0' ≤ c ∧ c ≤ '9' then some (c.toNat - 48 + 52)
  else if c = '+' then some 62
  else if c = '/' then some 63
  else none

/-- The characters of a byte string. -/
def encode : Bytes → List Char
  | [] => []
  | [a] => [digit (a.toNat / 4), digit (a.toNat % 4 * 16), '=', '=']
  | [a, b] =>
    [digit (a.toNat / 4), digit (a.toNat % 4 * 16 + b.toNat / 16), digit (b.toNat % 16 * 4), '=']
  | a :: b :: c :: rest =>
    digit (a.toNat / 4) :: digit (a.toNat % 4 * 16 + b.toNat / 16) ::
      digit (b.toNat % 16 * 4 + c.toNat / 64) :: digit (c.toNat % 64) :: encode rest

/-- The bytes of a group of four six-bit numbers. -/
def groupBytes (w x y z : Nat) : Bytes :=
  [UInt8.ofNat (w * 4 + x / 16), UInt8.ofNat (x % 16 * 16 + y / 4), UInt8.ofNat (y % 4 * 64 + z)]

/-- The bytes that a text of whole groups stands for. -/
def decode? : List Char → Option Bytes
  | [] => some []
  | [a, b, '=', '='] => do
    let w ← value? a
    let x ← value? b
    if x % 16 = 0 then some ((groupBytes w x 0 0).take 1) else none
  | [a, b, c, '='] => do
    let w ← value? a
    let x ← value? b
    let y ← value? c
    if y % 4 = 0 then some ((groupBytes w x y 0).take 2) else none
  | a :: b :: c :: d :: rest => do
    let w ← value? a
    let x ← value? b
    let y ← value? c
    let z ← value? d
    let tail ← decode? rest
    some (groupBytes w x y z ++ tail)
  | _ => none

/-- The text of a byte string. -/
def text (b : Bytes) : String :=
  String.ofList (encode b)

end HiveDump.Base64
