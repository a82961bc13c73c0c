import HiveDump.Markup.Eastern.Basic
import HiveDump.Markup.Plane.Ks1001

/-!
# Encodings of Korean

Of the 11172 syllables, KS X 1001 has the 2350 common ones. `cp949?` has room for the others in
their order; `johab?` writes every syllable as its three letters, five bits each.
-/

namespace HiveDump.Eastern

/-- A character in EUC. -/
def eucKr? (c : Char) : Option Bytes :=
  ascii? c <|> (Plane.ks1001.find? c).map euc

/-- A place among the syllables that KS X 1001 lacks: 32 long rows, then short ones in front of its
own. -/
def unified (i : Nat) : Bytes :=
  let (lead, trail) :=
    if i < 32 * 178 then (0x81 + i / 178, i % 178)
    else (0xA1 + (i - 32 * 178) / 84, (i - 32 * 178) % 84)
  pair lead (trail + if trail < 26 then 0x41 else if trail < 52 then 0x47 else 0x4D)

/-- A character in code page 949. The sign of postal codes is not in it. -/
def cp949? (c : Char) : Option Bytes :=
  ascii? c <|> (if c = '㉾' then none else (Plane.ks1001.find? c).map euc) <|>
    (Plane.ks1001.rank? 0xAC00 0xD7A3 c).map unified <|>
    (position? 0xE000 0xE0BB c).map fun i => pair (if i < 94 then 0xC9 else 0xFE) (0xA1 + i % 94)

/-- Three letters of five bits each. -/
def letters (initial vowel final : Nat) : Bytes :=
  let code := 0x8000 + initial * 0x400 + vowel * 0x20 + final
  pair (code / 0x100) (code % 0x100)

/-- The number of a vowel. -/
def vowelCode (i : Nat) : Nat :=
  if i < 5 then i + 3 else if i < 11 then i + 5 else if i < 17 then i + 7 else i + 9

/-- The number of a final letter; the first of them is none. -/
def finalCode (i : Nat) : Nat :=
  if i < 17 then i + 1 else i + 2

/-- The letters that syllables start with, in order. -/
def initialLetters : List Char := "ㄱㄲㄴㄷㄸㄹㅁㅂㅃㅅㅆㅇㅈㅉㅊㅋㅌㅍㅎ".toList

/-- The letters that syllables end with, in order. -/
def finalLetters : List Char := "ㄱㄲㄳㄴㄵㄶㄷㄹㄺㄻㄼㄽㄾㄿㅀㅁㅂㅄㅅㅆㅇㅈㅊㅋㅌㅍㅎ".toList

/-- The letters of a syllable, or a letter that stands alone. -/
def hangul? (c : Char) : Option Bytes :=
  (position? 0xAC00 0xD7A3 c).map
      (fun i => letters (i / 588 + 2) (vowelCode (i / 28 % 21)) (finalCode (i % 28))) <|>
    (position? 0x314F 0x3163 c).map (fun i => letters 1 (vowelCode i) 1) <|>
    (initialLetters.idxOf? c).map (fun i => letters (i + 2) 2 1) <|>
    (finalLetters.idxOf? c).map fun i => letters 1 2 (finalCode (i + 1))

/-- A place in KS X 1001 with the signs and the ideographs closed up, two rows to a lead byte. -/
def closedUp? (row place : Nat) : Option Bytes :=
  if row < 12 ∨ 41 ≤ row ∧ row < 93 then
    let line := row + if row < 41 then 0x1B2 else 0x197
    let trail := if line % 2 = 0 then place else 94 + place
    some (pair (line / 2) (trail + if trail < 0x4E then 0x31 else 0x43))
  else none

/-- A character in Johab, which has a won sign in place of the backslash. -/
def johab? (c : Char) : Option Bytes :=
  (if c = '\\' then none else ascii? c) <|> exception? [('₩', 0x5C)] c <|> hangul? c <|>
    (Plane.ks1001.find? c).bind fun p => closedUp? p.1 p.2

end HiveDump.Eastern
