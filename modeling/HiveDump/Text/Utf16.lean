import HiveDump.Bytes

/-!
# UTF-16 text, little endian

Hives store text in 16-bit units, low byte first. A character below U+10000 is one unit; any other
is a high surrogate (D800 to DBFF) followed by a low one (DC00 to DFFF).

* `encode` writes text; `decode?` reads it strictly: an odd length, a surrogate without its
  partner or a pair in the wrong order has no reading.
* `untilNul` cuts bytes at the first unit that is zero, at even positions only.
* `decodeString?` reads a terminated text: what follows the terminator is never looked at.
* `decodeStrings?` reads a list of terminated texts that ends at the first empty one. Here all
  bytes have to be text, those behind the end of the list included.
-/

namespace HiveDump.Utf16

/-! ## Units -/

/-- A unit that only stands in front of a low surrogate. -/
def isHigh (u : Nat) : Bool :=
  0xD800 ≤ u && u < 0xDC00

/-- A unit that only stands behind a high surrogate. -/
def isLow (u : Nat) : Bool :=
  0xDC00 ≤ u && u < 0xE000

/-- The one or two units of a character. -/
def unitsOf (c : Char) : List Nat :=
  if c.toNat < 0x10000 then [c.toNat]
  else [0xD800 + (c.toNat - 0x10000) / 0x400, 0xDC00 + (c.toNat - 0x10000) % 0x400]

/-- The character of a surrogate pair. -/
def pair (high low : Nat) : Char :=
  Char.ofNat (0x10000 + (high - 0xD800) * 0x400 + (low - 0xDC00))

/-- The characters of a string of units, if every surrogate has its partner. -/
def ofUnits? : List Nat → Option (List Char)
  | [] => some []
  | [u] => if isHigh u || isLow u then none else some [Char.ofNat u]
  | u :: v :: rest =>
    if isHigh u then
      if isLow v then (ofUnits? rest).map (pair u v :: ·) else none
    else if isLow u then none
    else (ofUnits? (v :: rest)).map (Char.ofNat u :: ·)

/-! ## Bytes -/

/-- The two bytes of a unit. -/
def unitBytes (u : Nat) : Bytes :=
  Bytes.ofLittleEndian 2 u

/-- The units of a byte string of even length. -/
def units? : Bytes → Option (List Nat)
  | [] => some []
  | [_] => none
  | lo :: hi :: rest => (units? rest).map fun us => (lo.toNat + 256 * hi.toNat) :: us

/-- The bytes of a text. -/
def encode (s : List Char) : Bytes :=
  (s.flatMap unitsOf).flatMap unitBytes

/-- The text that is stored in these bytes, if they store one. -/
def decode? (b : Bytes) : Option (List Char) :=
  (units? b).bind ofUnits?

/-- The bytes in front of the first zero unit; all of them if there is none. -/
def untilNul : Bytes → Bytes
  | lo :: hi :: rest => if lo = 0 ∧ hi = 0 then [] else lo :: hi :: untilNul rest
  | short => short

/-! ## Names, texts and lists of texts -/

/-- The text of a stored name, which has no terminator. -/
def decodeName? (b : Bytes) : Option String :=
  (decode? b).map String.ofList

/-- A text with its terminator. -/
def encodeString (s : String) : Bytes :=
  encode (s.toList ++ ['\x00'])

/-- The text in front of the terminator. -/
def decodeString? (b : Bytes) : Option String :=
  (decode? (untilNul b)).map String.ofList

/-- The pieces between the zero characters of a text. -/
def pieces : List Char → List (List Char)
  | [] => [[]]
  | c :: cs =>
    if c = '\x00' then [] :: pieces cs
    else match pieces cs with
      | [] => [[c]]
      | p :: ps => (c :: p) :: ps

/-- Each text with its terminator, then one terminator that ends the list. -/
def encodeStrings (ss : List String) : Bytes :=
  encode (ss.flatMap (fun s => s.toList ++ ['\x00'])) ++ unitBytes 0

/-- The texts in front of the first empty one. -/
def decodeStrings? (b : Bytes) : Option (List String) :=
  (decode? b).map fun cs => ((pieces cs).takeWhile (· ≠ [])).map String.ofList

end HiveDump.Utf16
