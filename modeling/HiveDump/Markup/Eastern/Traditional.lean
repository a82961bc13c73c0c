import HiveDump.Markup.Eastern.Basic
import HiveDump.Markup.Plane.Big5
import HiveDump.Markup.Plane.Cns
import HiveDump.Markup.Plane.Cns15
import HiveDump.Markup.Plane.Cns3
import HiveDump.Markup.Plane.Cns4
import HiveDump.Markup.Plane.Cns5
import HiveDump.Markup.Plane.Cns6
import HiveDump.Markup.Plane.Cns7
import HiveDump.Markup.Plane.Hkscs

/-!
# Encodings of traditional Chinese

Big Five and two extensions of it, one for terminals and one for Hong Kong; and the planes of
CNS 11643 in EUC.

The supplement of Hong Kong has codes for two letters with a mark behind them that no character
stands for (`hkscsPairs`), so what is written for such a letter depends on what follows.
-/

namespace HiveDump.Eastern

/-- A place in rows of 157 places, of which 63 come before and 94 behind a gap. -/
def gapped (lead : Nat) (p : Nat × Nat) : Bytes :=
  pair (lead + p.1 / 2) (p.2 + if p.1 % 2 = 0 then 0x40 else 0xA1)

/-- A character in Big Five. -/
def big5? (c : Char) : Option Bytes :=
  ascii? c <|> (Plane.big5.find? c).map (gapped 0xA1)

/-- The rows of Big Five that extensions use otherwise, those of kana and Cyrillic letters. -/
def isReused (p : Nat × Nat) : Bool :=
  75 ≤ p.1 && p.1 < 78

/-- A character of Big Five outside the rows that extensions use otherwise. -/
def common? (c : Char) : Option Bytes :=
  ((Plane.big5.find? c).filter fun p => !isReused p).map (gapped 0xA1)

/-- Signs that code page 950 writes differently than Big Five. -/
def cp950Signs : List (Char × Nat) :=
  [('¯', 0xA1C2), ('￣', 0xA1C3), ('ˍ', 0xA1C5), ('‧', 0xA145), ('€', 0xA3E1), ('∕', 0xA241),
   ('⊕', 0xA1F2), ('⊙', 0xA1F3), ('╴', 0xA15A), ('﹑', 0xA14E), ('﹨', 0xA242), ('／', 0xA1FE),
   ('＼', 0xA240), ('～', 0xA1E3), ('￠', 0xA246), ('￡', 0xA247), ('￥', 0xA244)]

/-- Signs of Big Five that code page 950 has in another form only. -/
def cp950Lacks : List Char := "¢£¥•‾∼☉♁､".toList

/-- Ideographs and frames of the last row of code page 950. -/
def cp950Row : List Char := "碁銹裏墻恒粧嫺╔╦╗╠╬╣╚╩╝╒╤╕╞╪╡╘╧╛╓╥╖╟╫╢╙╨╜║═╭╮╰╯▓".toList

/-- A place in rows of 157 places that start at the lead byte 81. -/
def gappedPlace (i : Nat) : Bytes :=
  pair (0x81 + i / 157) (i % 157 + if i % 157 < 63 then 0x40 else 0x62)

/-- A private character of code page 950: rows behind those of Big Five, two stretches in front, and
at last the rows that extensions use otherwise. -/
def cp950Private (i : Nat) : Bytes :=
  gappedPlace <|
    if i < 785 then 121 * 157 + i
    else if i < 3768 then 13 * 157 + (i - 785)
    else if i < 5809 then i - 3768
    else 69 * 157 + 63 + (i - 5809)

/-- A character in code page 950. -/
def cp950? (c : Char) : Option Bytes :=
  ascii? c <|> exception? cp950Signs c <|> (if cp950Lacks.contains c then none else common? c) <|>
    (cp950Row.idxOf? c).map (fun i => pair 0xF9 (0xD6 + i)) <|>
    (position? 0xE000 0xF848 c).map cp950Private

/-- A character in Big Five with the supplement of Hong Kong. -/
def hkscs? (c : Char) : Option Bytes :=
  ascii? c <|> common? c <|> (Plane.hkscs.find? c).map (gapped 0x87)

/-- Letters with a mark behind them that the supplement of Hong Kong has a code for. -/
def hkscsPairs : List ((Char × Char) × Nat) :=
  [(('Ê', '\u0304'), 0x8862), (('Ê', '\u030c'), 0x8864), (('ê', '\u0304'), 0x88A3),
   (('ê', '\u030c'), 0x88A5)]

/-- The bytes of a letter with a mark behind it. -/
def hkscsPair? (base mark : Char) : Option Bytes :=
  (hkscsPairs.lookup (base, mark)).map fun code => pair (code / 0x100) (code % 0x100)

/-- Whether a letter is held back until the next character is known. -/
def isHeldBack (c : Char) : Bool :=
  c == 'Ê' || c == 'ê'

/-- Writes the next character behind a letter that may be held back; `one` writes one alone. -/
def putPaired (one : Char → Bytes) (state : Array UInt8 × Option Char) (c : Char) :
    Array UInt8 × Option Char :=
  let next (out : Array UInt8) : Array UInt8 × Option Char :=
    if isHeldBack c then (out, some c) else (out ++ one c, none)
  match state with
  | (out, none) => next out
  | (out, some base) =>
    match hkscsPair? base c with
    | some b => (out ++ b, none)
    | none => next (out ++ one base)

/-- The bytes of a text with pairs; a letter that is held back at its end is not written. -/
def encodePaired (one : Char → Bytes) (text : List Char) : Bytes :=
  (text.foldl (putPaired one) (#[], none)).1.toList

/-- The further planes of CNS 11643, with their numbers. -/
def cnsFurther : List (Nat × Plane) :=
  [(3, .cns3), (4, .cns4), (5, .cns5), (6, .cns6), (7, .cns7), (15, .cns15)]

/-- A character in EUC: two bytes in front tell the planes behind the first. -/
def eucTw? (c : Char) : Option Bytes :=
  ascii? c <|> (Plane.cnsFirst? c).map euc <|>
    (Plane.cnsSecond? c).map (fun p => [0x8E, 0xA2] ++ euc p) <|>
    cnsFurther.findSome? fun (number, plane) =>
      (plane.find? c).map fun p => pair 0x8E (0xA0 + number) ++ euc p

end HiveDump.Eastern
