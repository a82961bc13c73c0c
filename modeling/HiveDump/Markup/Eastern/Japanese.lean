import HiveDump.Markup.Eastern.Basic
import HiveDump.Markup.Plane.Cp932
import HiveDump.Markup.Plane.Jis0208
import HiveDump.Markup.Plane.Jis0212

/-!
# Encodings of Japanese

Three encodings of the planes of JIS X 0208 and JIS X 0212, each with the half-width kana beside
them. `shiftJis?` extends JIS X 0201, which has a yen sign and an overline where ASCII has the
backslash and the tilde, so it lacks these two.

Private characters stand in the rows that the planes leave free, 94 in a row.
-/

namespace HiveDump.Eastern

/-- Signs of JIS X 0201 at places of ASCII. -/
def romanSigns : List (Char × Nat) :=
  [('¥', 0x5C), ('‾', 0x7E)]

/-- The byte of a character of JIS X 0201 that is not a kana. -/
def roman? (c : Char) : Option Bytes :=
  exception? romanSigns c <|> if c = '\\' ∨ c = '~' then none else ascii? c

/-- The byte of a half-width kana. -/
def kana? (c : Char) : Option Bytes :=
  (position? 0xFF61 0xFF9F c).map fun i => [UInt8.ofNat (0xA1 + i)]

/-- The number of a private character that Japanese encodings have room for. -/
def private? (c : Char) : Option Nat :=
  position? 0xE000 0xE757 c

/-- A character in EUC: a byte in front tells kana and supplementary kanji apart. -/
def eucJp? (c : Char) : Option Bytes :=
  ascii? c <|> (Plane.jis0208.find? c).map euc <|> (kana? c).map (0x8E :: ·) <|>
    (Plane.jis0212.find? c).map (fun p => 0x8F :: euc p) <|> exception? romanSigns c <|>
    (private? c).map fun i =>
      if i < 940 then euc (84 + i / 94, i % 94)
      else 0x8F :: euc (84 + (i - 940) / 94, (i - 940) % 94)

/-- A place in a plane, two rows to a lead byte; the lead bytes leave out those of kana. -/
def shifted (row place : Nat) : Bytes :=
  let lead := row / 2
  let trail := if row % 2 = 0 then place else 94 + place
  pair (lead + if lead < 0x1F then 0x81 else 0xC1) (trail + if trail < 0x3F then 0x40 else 0x41)

/-- A character in Shift JIS. -/
def shiftJis? (c : Char) : Option Bytes :=
  roman? c <|> kana? c <|> (Plane.jis0208.find? c).map (fun p => shifted p.1 p.2) <|>
    (private? c).map fun i => shifted (94 + i / 94) (i % 94)

/-- Wide signs that code page 932 writes where JIS X 0208 has similar ones. -/
def wideSigns : List (Char × Nat) :=
  [('～', 0x8160), ('∥', 0x8161), ('－', 0x817C), ('￠', 0x8191), ('￡', 0x8192), ('￢', 0x81CA)]

/-- A character in code page 932. -/
def cp932? (c : Char) : Option Bytes :=
  ascii? c <|> kana? c <|> (Plane.jis0208.find? c).map (fun p => shifted p.1 p.2) <|>
    (Plane.cp932Signs.find? c).map (fun p => shifted (12 + p.1) p.2) <|>
    (Plane.cp932Kanji.find? c).map (fun p => shifted (114 + p.1) p.2) <|>
    exception? romanSigns c <|> (private? c).map (fun i => shifted (94 + i / 94) (i % 94)) <|>
    exception? wideSigns c

end HiveDump.Eastern
