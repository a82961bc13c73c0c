import HiveDump.Markup.CodePage.Iso8859
import HiveDump.Markup.Eastern.Japanese
import HiveDump.Markup.Plane.Cns
import HiveDump.Markup.Plane.Cns3
import HiveDump.Markup.Plane.Cns4
import HiveDump.Markup.Plane.Cns5
import HiveDump.Markup.Plane.Cns6
import HiveDump.Markup.Plane.Cns7
import HiveDump.Markup.Plane.Gb2312
import HiveDump.Markup.Plane.IsoIr165
import HiveDump.Markup.Plane.Ks1001

/-!
# Encodings that switch between sets

With seven bits, the same bytes stand for characters of several sets, and marks between them tell
which set is meant. A set is reached in one of three ways (`Reach`): a mark makes it the current
one; it is announced once on a line and then shifted to; or it is announced and a mark stands in
front of each of its characters. What a line announces ends with it.

Of the sets that have a character, the first in the encoding's list is taken, whatever set is the
current one.
-/

namespace HiveDump

/-- A set of characters that seven-bit encodings switch to. -/
inductive GraphicSet
  | ascii
  | roman
  | kana
  | jis0208
  | jis0212
  | gb2312
  | ks1001
  | cnsFirst
  | cnsSecond
  | cns3
  | cns4
  | cns5
  | cns6
  | cns7
  | isoIr165
  | latin1
  | greek
  deriving DecidableEq, Repr

namespace GraphicSet

/-- A place in a plane, both numbers counted from 21. -/
def low (p : Nat × Nat) : Bytes :=
  Eastern.pair (0x21 + p.1) (0x21 + p.2)

/-- The upper half of a set, with the highest bit of the code left out. -/
def upper (code : Nat) : Option Bytes :=
  if 0x80 ≤ code then some [UInt8.ofNat (code - 0x80)] else none

/-- The bytes of a character, if the set has it. -/
def code? : GraphicSet → Char → Option Bytes
  | ascii, c => Eastern.ascii? c
  | roman, c => Eastern.roman? c
  | kana, c => (Eastern.kana? c).map fun b => b.map (· - 0x80)
  | jis0208, c => (Plane.jis0208.find? c).map low
  | jis0212, c => (Plane.jis0212.find? c).map low
  | gb2312, c => (Plane.gb2312.find? c).map low
  | ks1001, c => (Plane.ks1001.find? c).map low
  | cnsFirst, c => (Plane.cnsFirst? c).map low
  | cnsSecond, c => (Plane.cnsSecond? c).map low
  | cns3, c => (Plane.cns3.find? c).map low
  | cns4, c => (Plane.cns4.find? c).map low
  | cns5, c => (Plane.cns5.find? c).map low
  | cns6, c => (Plane.cns6.find? c).map low
  | cns7, c => (Plane.cns7.find? c).map low
  | isoIr165, c => (Plane.isoIr165.find? c).map low
  | latin1, c => (CodePage.latin1.code? c).bind upper
  | greek, c => (CodePage.iso7.code? c).bind upper

end GraphicSet

/-- How a set is reached. -/
inductive Reach
  /-- A mark makes it the current set. -/
  | mark (mark : String)
  /-- Announced and shifted to. -/
  | shift (announcement : String)
  /-- Announced for a mark that stands in front of each character. -/
  | single (announcement mark : String)
  deriving DecidableEq, Repr

/-- A seven-bit encoding: its sets in order of preference. -/
structure Switching where
  sets : List (GraphicSet × Reach)
  deriving DecidableEq, Repr

namespace Switching

/-! ## Encodings -/

/-- The mark that shifts to the announced set. -/
def shiftMark : String := "\x0e"

/-- The mark in front of a single character of one announced set. -/
def singleMark : String := "\x1bN"

/-- The mark in front of a single character of another announced set. -/
def secondSingleMark : String := "\x1bO"

/-- Japanese with the common kanji. -/
def iso2022Jp : Switching where
  sets := [(.ascii, .mark "\x1b(B"), (.roman, .mark "\x1b(J"), (.jis0208, .mark "\x1b$B"),
    (.kana, .mark "\x1b(I")]

/-- Japanese with the supplementary kanji. -/
def iso2022Jp1 : Switching where
  sets := [(.ascii, .mark "\x1b(B"), (.roman, .mark "\x1b(J"), (.jis0208, .mark "\x1b$B"),
    (.jis0212, .mark "\x1b$(D"), (.kana, .mark "\x1b(I")]

/-- Japanese with letters of Europe and the sets of China and Korea. -/
def iso2022Jp2 : Switching where
  sets := [(.ascii, .mark "\x1b(B"), (.roman, .mark "\x1b(J"), (.jis0208, .mark "\x1b$B"),
    (.jis0212, .mark "\x1b$(D"), (.latin1, .single "\x1b.A" singleMark),
    (.greek, .single "\x1b.F" singleMark), (.gb2312, .mark "\x1b$A"),
    (.ks1001, .mark "\x1b$(C"), (.kana, .mark "\x1b(I")]

/-- Korean. -/
def iso2022Kr : Switching where
  sets := [(.ascii, .mark "\x0f"), (.ks1001, .shift "\x1b$)C")]

/-- Simplified and traditional Chinese. -/
def iso2022Cn : Switching where
  sets := [(.ascii, .mark "\x0f"), (.gb2312, .shift "\x1b$)A"), (.cnsFirst, .shift "\x1b$)G"),
    (.cnsSecond, .single "\x1b$*H" singleMark)]

/-- Simplified and traditional Chinese with rare ideographs. -/
def iso2022CnExt : Switching where
  sets := [(.ascii, .mark "\x0f"), (.gb2312, .shift "\x1b$)A"), (.isoIr165, .shift "\x1b$)E"),
    (.cnsFirst, .shift "\x1b$)G"), (.cnsSecond, .single "\x1b$*H" singleMark),
    (.cns3, .single "\x1b$+I" secondSingleMark), (.cns4, .single "\x1b$+J" secondSingleMark),
    (.cns5, .single "\x1b$+K" secondSingleMark), (.cns6, .single "\x1b$+L" secondSingleMark),
    (.cns7, .single "\x1b$+M" secondSingleMark)]

/-- Simplified Chinese between marks of printable characters. -/
def hz : Switching where
  sets := [(.ascii, .mark "~\x7d"), (.gb2312, .mark "~\x7b")]

/-! ## Writing -/

/-- What the bytes of a text mean at a point. -/
structure Mode where
  /-- The current set; `none` once shifted to the announced one. -/
  current : Option GraphicSet := some .ascii
  /-- The sets announced, each for a mark. -/
  announced : List (String × GraphicSet) := []
  deriving DecidableEq, Repr

/-- The bytes of a text in ASCII. -/
def bytesOf (s : String) : Bytes :=
  s.toList.map fun c => UInt8.ofNat c.toNat

/-- Announces a set for a mark unless that is done already. -/
def Mode.announce (m : Mode) (mark : String) (set : GraphicSet) (announcement : String) :
    Bytes × Mode :=
  if m.announced.lookup mark = some set then ([], m)
  else (bytesOf announcement,
    { m with announced := (mark, set) :: m.announced.filter fun e => e.1 != mark })

/-- The bytes that lead to a set, and the mode behind them. -/
def enter (m : Mode) (set : GraphicSet) : Reach → Bytes × Mode
  | .mark mark =>
    (if m.current = some set then [] else bytesOf mark, { m with current := some set })
  | .shift announcement =>
    let (lead, m) := m.announce shiftMark set announcement
    (lead ++ if m.current = none then [] else bytesOf shiftMark, { m with current := none })
  | .single announcement mark =>
    let (lead, m) := m.announce mark set announcement
    (lead ++ bytesOf mark, m)

/-- What a line announced ends with it. -/
def endLine (m : Mode) (c : Char) : Mode :=
  if c = '\n' ∨ c = '\r' then { m with announced := [] } else m

/-- The bytes of a character, and the mode behind them, if a set of the encoding has it. -/
def put? (e : Switching) (m : Mode) (c : Char) : Option (Bytes × Mode) :=
  e.sets.findSome? fun (set, reach) => (set.code? c).map fun code =>
    let (lead, m) := enter m set reach
    (lead ++ code, endLine m c)

/-- The bytes of a text; `instead` is written for a character that the encoding lacks. -/
def encode (e : Switching) (instead : Char → List Char) (text : List Char) : Bytes :=
  let put (state : Array UInt8 × Mode) (c : Char) : Option (Array UInt8 × Mode) :=
    (e.put? state.2 c).map fun (b, m) => (state.1 ++ b, m)
  (text.foldl (fun state c => (put state c).getD
    ((instead c).foldl (fun state d => (put state d).getD state) state)) (#[], {})).1.toList

end Switching

end HiveDump
