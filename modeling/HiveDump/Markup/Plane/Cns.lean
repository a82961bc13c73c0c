import HiveDump.Markup.Plane.Big5

/-!
# CNS 11643

The first two planes of CNS 11643, each of 94 rows of 94 places. They hold the ideographs of Big
Five in nearly the same order, common ones in the first plane and rare ones in the second, so their
places are given by runs of Big Five. The signs in front of the first plane have an order of their
own.
-/

namespace HiveDump.Plane

/-- Signs, letters and numbers of the first plane. -/
def cnsSigns : Plane := .ofRows
  ["　，、。．・；：？！︰…‥﹐﹑﹒·﹔﹕﹖﹗︱—︲–    （）︵︶｛｝︷︸〔〕︹︺【】︻︼《》︽︾〈〉︿﹀「」﹁﹂『』﹃﹄﹙﹚﹛﹜﹝﹞‘’“”〝〞′‵＃＆＊※§〃○●△▲◎☆★◇◆□■▽▼",
   "㊣℅‾ ＿ ﹉﹊﹍﹎﹋﹌﹟﹠﹡＋－×÷±√＜＞＝≦≧≠∞≒≡﹢﹣﹤﹦﹥∼∩∪⊥∠∟⊿㏒㏑∫∮∵∴♀♂♁☉↑↓→←↖↗↙↘‖｜／＼∕﹨＄￥〒￠￡％＠℃℉﹩﹪﹫㏕㎜㎝㎞㏎㎡㎎㎏㏄°兙兛兞兝兡兣",
   "嗧瓩糎▁▂▃▄▅▆▇█▏▎▍▌▋▊▉┼┴┬┤├▔─│▕┌┐└┘╭╮╰╯═╞╪╡◢◣◥◤╱╲╳",
   "０１２３４５６７８９ⅠⅡⅢⅣⅤⅥⅦⅧⅨⅩ〡〢〣〤〥〦〧〨〩 卄 ＡＢＣＤＥＦＧＨＩＪＫＬＭＮＯＰＱＲＳＴＵＶＷＸＹＺａｂｃｄｅｆｇｈｉｊｋｌｍｎｏｐｑｒｓｔｕｖｗｘｙｚΑΒΓΔΕΖΗΘΙΚ",
   "ΛΜΝΞΟΠΡΣΤΥΦΧΨΩαβγδεζηθικλμνξοπρστυφχψωㄅㄆㄇㄈㄉㄊㄋㄌㄍㄎㄏㄐㄑㄒㄓㄔㄕㄖㄗㄘㄙㄚㄛㄜㄝㄞㄟㄠㄡㄢㄣㄤㄥㄦㄧㄨㄩ˙ˉˊˇˋ",
   "①②③④⑤⑥⑦⑧⑨⑩⑴⑵⑶⑷⑸⑹⑺⑻⑼⑽ⅰⅱⅲⅳⅴⅵⅶⅷⅸⅹ", "       亠      冫    勹", "", "", "", "", "", "", "", "", "", "",
   "", "", "", "", "", "", "", "", "", "", "", "", "", "", "", "",
   "␀␁␂␃␄␅␆␇␈␉␊␋␌␍␎␏␐␑␒␓␔␕␖␗␘␙␚␛␜␝␞␟␡"]

/-- Runs of common ideographs: where each starts in Big Five and in the first plane, and its
size. -/
def cnsCommon : List (Nat × Nat × Nat) :=
  [(471, 3290, 1412), (1884, 4702, 424), (1883, 5126, 1), (2308, 5127, 1876), (4571, 7003, 1),
   (4184, 7004, 387), (4572, 7391, 525), (5286, 7916, 1), (5097, 7917, 105), (5203, 8023, 83),
   (5287, 8106, 84), (5517, 8190, 1), (5371, 8191, 54), (5426, 8245, 1), (5425, 8246, 1),
   (5427, 8247, 90), (5518, 8337, 354)]

/-- Runs of rare ideographs: where each starts in Big Five and in the second plane, and its size. -/
def cnsRare : List (Nat × Nat × Nat) :=
  [(6280, 0, 10), (6291, 10, 33), (6372, 43, 1), (6324, 44, 48), (6373, 92, 46), (6586, 138, 1),
   (6419, 139, 167), (6587, 306, 1840), (9074, 2146, 1), (8428, 2147, 108), (8537, 2255, 537),
   (8427, 2792, 1), (9075, 2793, 100), (8536, 2893, 1), (9175, 2894, 399), (9575, 3293, 1637),
   (11761, 4930, 1), (11212, 4931, 146), (11899, 5077, 1), (11358, 5078, 287), (12508, 5365, 1),
   (11645, 5366, 116), (11762, 5482, 137), (11900, 5619, 104), (12425, 5723, 1), (12004, 5724, 222),
   (12227, 5946, 198), (12426, 6144, 82), (12509, 6226, 86), (12226, 6312, 1), (12595, 6313, 8),
   (12604, 6321, 153), (12758, 6474, 56), (13114, 6530, 1), (12814, 6531, 113), (12603, 6644, 1),
   (12927, 6645, 142), (12757, 6787, 1), (13069, 6788, 45), (13115, 6833, 71), (13380, 6904, 1),
   (13186, 6905, 194), (13381, 7099, 490), (13914, 7589, 1), (13871, 7590, 43), (13915, 7633, 1),
   (13917, 7634, 11), (13916, 7645, 1), (13928, 7646, 4)]

/-- The number of a character in Big Five, 157 to a row. -/
def big5Number? (c : Char) : Option Nat :=
  (big5.find? c).map fun (row, place) => row / 2 * 157 + (if row % 2 = 0 then place else 63 + place)

/-- Where runs take a number. -/
def inRuns? (runs : List (Nat × Nat × Nat)) (n : Nat) : Option (Nat × Nat) :=
  (runs.find? fun (start, _, size) => start ≤ n && n < start + size).map fun (start, target, _) =>
    ((target + (n - start)) / 94, (target + (n - start)) % 94)

/-- The row and place of a character in the first plane. -/
def cnsFirst? (c : Char) : Option (Nat × Nat) :=
  cnsSigns.find? c <|> if c = '彞' then some (85, 32) else (big5Number? c).bind (inRuns? cnsCommon)

/-- The row and place of a character in the second plane. -/
def cnsSecond? (c : Char) : Option (Nat × Nat) :=
  (big5Number? c).bind (inRuns? cnsRare)

end HiveDump.Plane
