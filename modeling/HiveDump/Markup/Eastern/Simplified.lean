import HiveDump.Markup.Eastern.Basic
import HiveDump.Markup.Eastern.Gb18030Runs
import HiveDump.Markup.Plane.Gb2312

/-!
# Encodings of simplified Chinese

Each of these extends the one before: EUC has the characters of GB 2312, GBK all ideographs below
U+9FA6, and GB 18030 every character, with four bytes where two do not suffice.
-/

namespace HiveDump.Eastern

/-- A character in EUC. -/
def eucCn? (c : Char) : Option Bytes :=
  ascii? c <|> (Plane.gb2312.find? c).map euc

/-- Runs of signs that GBK adds; each starts at a place with two bytes. -/
def gbkSigns : List (Nat × String) :=
  [(0xA1A4, "·"), (0xA1AA, "—"), (0xA2A1, "ⅰⅱⅲⅳⅴⅵⅶⅷⅸⅹ"), (0xA6E0, "︵︶︹︺︿﹀︽︾﹁﹂﹃﹄"),
   (0xA6EE, "︻︼︷︸︱"), (0xA6F4, "︳︴"),
   (0xA840, "ˊˋ˙–―‥‵℅℉↖↗↘↙∕∟∣≒≦≧⊿═║╒╓╔╕╖╗╘╙╚╛╜╝╞╟╠╡╢╣╤╥╦╧╨╩╪╫╬╭╮╯╰╱╲╳▁▂▃▄▅▆▇"),
   (0xA880, "█▉▊▋▌▍▎▏▓▔▕▼▽◢◣◤◥☉⊕〒〝〞"), (0xA8BB, "ɑ"), (0xA8BD, "ńň"), (0xA8C0, "ɡ"),
   (0xA940, "〡〢〣〤〥〦〧〨〩㊣㎎㎏㎜㎝㎞㎡㏄㏎㏑㏒㏕︰￢￤"), (0xA959, "℡㈱"), (0xA95C, "‐"),
   (0xA960, "ー゛゜ヽヾ〆ゝゞ﹉﹊﹋﹌﹍﹎﹏﹐﹑﹒﹔﹕﹖﹗﹙﹚﹛﹜﹝﹞﹟﹠﹡"), (0xA980, "﹢﹣﹤﹥﹦﹨﹩﹪﹫"), (0xA996, "〇")]

/-- Compatibility ideographs, behind all others. -/
def gbkCompatible : List Char :=
  ["\uf92c\uf979\uf995\uf9e7\uf9f1\ufa0c\ufa0d\ufa0e\ufa0f\ufa11\ufa13",
    "\ufa14\ufa18\ufa1f\ufa20\ufa21\ufa23\ufa24\ufa27\ufa28\ufa29"].flatMap String.toList

/-- The place `i` behind a place of the same row; the trail byte 7F is left out. -/
def behind (place i : Nat) : Bytes :=
  let trail := place % 0x100 + i
  pair (place / 0x100) (if place % 0x100 < 0x7F ∧ 0x7F ≤ trail then trail + 1 else trail)

/-- A place in rows of 96 places that stand in front of those of GB 2312. -/
def beside (lead i : Nat) : Bytes :=
  behind ((lead + i / 96) * 0x100 + 0x40) (i % 96)

/-- The position among the ideographs that GBK adds. -/
def gbkRank? (c : Char) : Option Nat :=
  Plane.gb2312.rank? 0x4E00 0x9FA5 c <|> (gbkCompatible.idxOf? c).map (14139 + ·)

/-- An ideograph that GBK adds: 32 rows of 190 places, then rows of 96. -/
def gbkIdeograph (i : Nat) : Bytes :=
  if i < 6080 then behind ((0x81 + i / 190) * 0x100 + 0x40) (i % 190) else beside 0xAA (i - 6080)

/-- A sign that GBK adds. -/
def gbkSign? (c : Char) : Option Bytes :=
  gbkSigns.findSome? fun run => (run.2.toList.idxOf? c).map (behind run.1)

/-- A character in GBK. Two signs of GB 2312 stand for similar ones here. -/
def gbk? (c : Char) : Option Bytes :=
  ascii? c <|> (if c = '・' ∨ c = '―' then none else (Plane.gb2312.find? c).map euc) <|>
    (gbkRank? c).map gbkIdeograph <|> gbkSign? c

/-- A private character, in rows of 94 places behind the ideographs and in rows of 96 beside the
signs. -/
def privatePlace (i : Nat) : Bytes :=
  if i < 564 then euc (9 + i / 94, i % 94)
  else if i < 1222 then euc (87 + (i - 564) / 94, (i - 564) % 94)
  else beside 0xA1 (i - 1222)

/-- A character in code page 936. -/
def cp936? (c : Char) : Option Bytes :=
  gbk? c <|> exception? [('€', 0x80), ('\uf8f5', 0xFF)] c <|>
    (position? 0xE000 0xE585 c).map privatePlace

/-- A character with two bytes that GB 18030 adds. -/
def gb18030Pair? (c : Char) : Option Bytes :=
  gb18030Pairs.findSome? fun (place, first, size) =>
    (position? first (first + size - 1) c).map (behind place)

/-- Four bytes for a number: 126 and 10 values take turns from the back. -/
def quad (n : Nat) : Bytes :=
  pair (0x81 + n / 12600) (0x30 + n / 1260 % 10) ++ pair (0x81 + n / 10 % 126) (0x30 + n % 10)

/-- The number of a character with four bytes: below U+10000 that of the start of its run, counted
on. -/
def quadNumber? (c : Char) : Option Nat :=
  if 0x10000 ≤ c.toNat then some (189000 + (c.toNat - 0x10000))
  else (gb18030Quads.findRev? fun run => run.1 ≤ c.toNat).map fun run =>
    run.2 + (c.toNat - run.1)

/-- A character in GB 18030. -/
def gb18030? (c : Char) : Option Bytes :=
  gbk? c <|> (position? 0xE000 0xE765 c).map privatePlace <|> gb18030Pair? c <|>
    (quadNumber? c).map quad

end HiveDump.Eastern
