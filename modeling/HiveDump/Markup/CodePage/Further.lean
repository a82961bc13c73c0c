import HiveDump.Markup.CodePage.Basic

/-!
# Further code pages

National variants of ASCII, and sets of characters for single languages. A code that stands for
nothing is shown as a blank. The Vietnamese sets are the only ones that use codes of control
characters. The Armenian, Hebrew and Arabic sets hold signs of ASCII a second time, and these codes
are the ones written.
-/

namespace HiveDump.CodePage

/-- Latin letters of Japan: ASCII with a yen sign and an overline. -/
def iso646Jp : CodePage :=
  { CodePage.ascii with
    special := [('¥', 0x5C), ('‾', 0x7E)]
    special_distinct := by decide }

/-- Latin letters of China: ASCII with a yen sign and an overline. -/
def iso646Cn : CodePage :=
  { CodePage.ascii with
    special := [('¥', 0x24), ('‾', 0x7E)]
    special_distinct := by decide }

/-- Latin letters of Japan and half-width kana. -/
def jis0201 : CodePage :=
  { CodePage.ofRows 0x80
      ["                ", "                ", " ｡｢｣､･ｦｧｨｩｪｫｬｭｮｯ", "\uff70ｱｲｳｴｵｶｷｸｹｺｻｼｽｾｿ",
       "ﾀﾁﾂﾃﾄﾅﾆﾇﾈﾉﾊﾋﾌﾍﾎﾏ", "ﾐﾑﾒﾓﾔﾕﾖﾗﾘﾙﾚﾛﾜﾝ\uff9e\uff9f"] with
    special := [('¥', 0x5C), ('‾', 0x7E)]
    special_distinct := by decide }

/-- Cyrillic letters with those of Ukrainian and Belarusian. -/
def koi8ru : CodePage :=
  .ofRows 0x80
    ["─│┌┐└┘├┤┬┴┼▀▄█▌▐", "░▒▓“■∙”—№™\u00a0»®«·¤", "═║╒ёє╔ії╗╘╙╚╛ґў╞", "╟╠╡ЁЄ╣ІЇ╦╧╨╩╪ҐЎ©",
     "юабцдефгхийклмно", "пярстужвьызшэщчъ", "ЮАБЦДЕФГХИЙКЛМНО", "ПЯРСТУЖВЬЫЗШЭЩЧЪ"]

/-- Cyrillic letters and frames, with the letters of Belarusian. -/
def cp1131 : CodePage :=
  .ofRows 0x80
    ["АБВГДЕЖЗИЙКЛМНОП", "РСТУФХЦЧШЩЪЫЬЭЮЯ", "абвгдежзийклмноп", "░▒▓│┤╡╢╖╕╣║╗╝╜╛┐",
     "└┴┬├─┼╞╟╚╔╩╦╠═╬╧", "╨╤╥╙╘╒╓╫╪┘┌█▄▌▐▀", "рстуфхцчшщъыьэюя", "ЁёЄєЇїЎўІі·¤Ґґ∙\u00a0"]

/-- Lao letters. -/
def cp1133 : CodePage :=
  .ofRows 0xA0
    [" ກຂຄງຈສຊຍດຕຖທນບປ", "ຜຝພຟມຢຣລວຫອຮ   ຯ",
     "ະາຳ\u0eb4\u0eb5\u0eb6\u0eb7\u0eb8\u0eb9\u0ebc\u0eb1\u0ebbຽ   ",
     "ເແໂໃໄ\u0ec8\u0ec9\u0eca\u0ecb\u0ecc\u0ecd\u0ec6 ໜໝ₭", "                ",
     "໐໑໒໓໔໕໖໗໘໙  ¢¬¦\u00a0"]

/-- Lao letters in the order of their codes. -/
def muleLao : CodePage :=
  .ofRows 0xA0
    ["\u00a0ກຂ ຄ  ງຈ ຊ  ຍ  ", "    ດຕຖທ ນບປຜຝພຟ", " ມຢຣ ລ ວ  ສຫ ອຮຯ",
     "ະ\u0eb1າຳ\u0eb4\u0eb5\u0eb6\u0eb7\u0eb8\u0eb9 \u0ebb\u0ebcຽ  ",
     "ເແໂໃໄ \u0ec6 \u0ec8\u0ec9\u0eca\u0ecb\u0ecc\u0ecd  ", "໐໑໒໓໔໕໖໗໘໙  ໜໝ  "]

/-- Armenian letters; some signs of ASCII stand among them. -/
def armscii : CodePage :=
  { CodePage.ofRows 0xA1
      [" և։  »«— ՝  ֊…՜՛", "՞ԱաԲբԳգԴդԵեԶզԷէԸ", "ըԹթԺժԻիԼլԽխԾծԿկՀ", "հՁձՂղՃճՄմՅյՆնՇշՈ",
       "ոՉչՊպՋջՌռՍսՎվՏտՐ", "րՑցՒւՓփՔքՕօՖֆ՚ "] with
    special := [('(', 0xA5), (')', 0xA4), (',', 0xAB), ('-', 0xAC), ('.', 0xA9)]
    special_distinct := by decide }

/-- Georgian letters, with the old ones behind the others. -/
def georgianAcademy : CodePage :=
  .ofRows 0x80
    ["\u0080\u0081‚ƒ„…†‡\u02c6‰Š‹Œ\u008d\u008e\u008f", "\u0090‘’“”•–—˜™š›œ\u009d\u009eŸ",
     "\u00a0¡¢£¤¥¦§¨©ª«¬\u00ad®¯", "°±²³´µ¶·¸¹º»¼½¾¿", "აბგდევზთიკლმნოპჟ", "რსტუფქღყშჩცძწჭხჯ",
     "ჰჱჲჳჴჵჶçèéêëìíîï", "ðñòóôõö÷øùúûüýþÿ"]

/-- Georgian letters, with the old ones among the others. -/
def georgianPs : CodePage :=
  .ofRows 0x80
    ["\u0080\u0081‚ƒ„…†‡\u02c6‰Š‹Œ\u008d\u008e\u008f", "\u0090‘’“”•–—˜™š›œ\u009d\u009eŸ",
     "\u00a0¡¢£¤¥¦§¨©ª«¬\u00ad®¯", "°±²³´µ¶·¸¹º»¼½¾¿", "აბგდევზჱთიკლმნჲო", "პჟრსტჳუფქღყშჩცძწ",
     "ჭხჴჯჰჵæçèéêëìíîï", "ðñòóôõö÷øùúûüýþÿ"]

/-- Vietnamese letters, six of them at codes of control characters. -/
def viscii : CodePage :=
  { CodePage.ofRows 0x80
      ["ẠẮẰẶẤẦẨẬẼẸẾỀỂỄỆỐ", "ỒỔỖỘỢỚỜỞỊỎỌỈỦŨỤỲ", "Õắằặấầẩậẽẹếềểễệố", "ồổỗỠƠộờởịỰỨỪỬơớƯ",
       "ÀÁÂÃẢĂẳẵÈÉÊẺÌÍĨỳ", "ĐứÒÓÔạỷừửÙÚỹỵÝỡư", "àáâãảăữẫèéêẻìíĩỉ", "đựòóôõỏọụùúũủýợỮ"] with
    special := [('Ẳ', 0x02), ('Ẵ', 0x05), ('Ẫ', 0x06), ('Ỷ', 0x14), ('Ỹ', 0x19), ('Ỵ', 0x1E)]
    special_distinct := by decide }

/-- Vietnamese letters and tones, twelve of them at codes of control characters. -/
def tcvn : CodePage :=
  { CodePage.ofRows 0x80
      ["ÀẢÃÁẠẶẬÈẺẼÉẸỆÌỈĨ", "ÍỊÒỎÕÓỌỘỜỞỠỚỢÙỦŨ", "\u00a0ĂÂÊÔƠƯĐăâêôơưđẰ",
       "\u0300\u0309\u0303\u0301\u0323àảãáạẲằẳẵắẴ", "ẮẦẨẪẤỀặầẩẫấậèỂẻẽ", "éẹềểễếệìỉỄẾỒĩíịò",
       "Ổỏõóọồổỗốộờởỡớợù", "ỖủũúụừửữứựỳỷỹýỵỐ"] with
    special := [('Ú', 0x01), ('Ụ', 0x02), ('Ừ', 0x04), ('Ử', 0x05), ('Ữ', 0x06), ('Ứ', 0x11),
      ('Ự', 0x12), ('Ỳ', 0x13), ('Ỷ', 0x14), ('Ỹ', 0x15), ('Ý', 0x16), ('Ỵ', 0x17)]
    special_distinct := by decide
    compositions :=
      [⟨"\u0340\u0341", "\u0300\u0301", ""⟩,
       ⟨"ǸǹẀẁ", "NnWw", "\u0300"⟩,
       ⟨"ĆćĹĺŃńŔŕŚśŹźǴǵḰḱḾḿṔṕẂẃ", "CcLlNnRrSsZzGgKkMmPpWw", "\u0301"⟩,
       ⟨"ÑñṼṽ", "NnVv", "\u0303"⟩,
       ⟨"ḄḅḌḍḤḥḲḳḶḷṂṃṆṇṚṛṢṣṬṭṾṿẈẉẒẓ", "BbDdHhKkLlMmNnRrSsTtVvWwZz", "\u0323"⟩] }

/-- Latin letters of western Europe in an order of their own. -/
def nextstep : CodePage :=
  .ofRows 0x80
    ["\u00a0ÀÁÂÃÄÅÇÈÉÊËÌÍÎÏ", "ÐÑÒÓÔÕÖÙÚÛÜÝÞµ×÷", "©¡¢£⁄¥ƒ§¤’“«‹›ﬁﬂ", "®–†‡·¦¶•‚„”»…‰¬¿",
     "¹\u02cb´\u02c6˜¯˘˙¨²˚¸³˝˛\u02c7", "—±¼½¾àáâãäåçèéêë", "ìÆíªîïðñŁØŒºòóôõ", "öæùúûıüýłøœßþÿ  "]

/-- Latin letters of Croatia. -/
def macCroatian : CodePage :=
  .ofRows 0x80
    ["ÄÅÇÉÑÖÜáàâäãåçéè", "êëíìîïñóòôöõúùûü", "†°¢£§•¶ß®Š™´¨≠ŽØ", "∞±≤≥∆µ∂∑∏š∫ªº\u2126žø",
     "¿¡¬√ƒ≈Ć«Č…\u00a0ÀÃÕŒœ", "Đ—“”‘’÷◊ ©⁄¤‹›Æ»", "–·‚„‰ÂćÁčÈÍÎÏÌÓÔ", "đÒÚÛÙı\u02c6˜¯πË˚¸Êæ\u02c7"]

/-- Latin letters of Romania. -/
def macRomania : CodePage :=
  .ofRows 0x80
    ["ÄÅÇÉÑÖÜáàâäãåçéè", "êëíìîïñóòôöõúùûü", "†°¢£§•¶ß®©™´¨≠ĂŞ", "∞±≤≥¥µ∂∑∏π∫ªº\u2126ăş",
     "¿¡¬√ƒ≈∆«»…\u00a0ÀÃÕŒœ", "–—“”‘’÷◊ÿŸ⁄¤‹›Ţţ", "‡·‚„‰ÂÊÁËÈÍÎÏÌÓÔ", " ÒÚÛÙı\u02c6˜¯˘˙˚¸˝˛\u02c7"]

/-- Cyrillic letters with those of Ukrainian. -/
def macUkraine : CodePage :=
  .ofRows 0x80
    ["АБВГДЕЖЗИЙКЛМНОП", "РСТУФХЦЧШЩЪЫЬЭЮЯ", "†°Ґ£§•¶І®©™Ђђ≠Ѓѓ", "∞±≤≥іµґЈЄєЇїЉљЊњ",
     "јЅ¬√ƒ≈∆«»…\u00a0ЋћЌќѕ", "–—“”‘’÷„ЎўЏџ№Ёёя", "абвгдежзийклмноп", "рстуфхцчшщъыьэю¤"]

/-- Hebrew letters and points, with right-to-left signs that are preferred to those of ASCII. -/
def macHebrew : CodePage :=
  { CodePage.ofRows 0x80
      ["Ä\ufb1fÇÉÑÖÜáàâäãåçéè", "êëíìîïñóòôöõúùûü", "      ₪         ", "                ",
       " „    \u05bc\ufb4b\ufb35…\u00a0\u05b8\u05b7\u05b5\u05b6\u05b4",
       "–—“”‘’\ufb2a\ufb2b\u05bf\u05b0\u05b2\u05b1\u05bb\u05b9 \u05b3",
       "\u05d0\u05d1\u05d2\u05d3\u05d4\u05d5\u05d6\u05d7\u05d8\u05d9\u05da\u05db\u05dc\u05dd\u05de\u05df",
       "\u05e0\u05e1\u05e2\u05e3\u05e4\u05e5\u05e6\u05e7\u05e8\u05e9\u05ea     "] with
    special :=
      [' ', '!', '"', '#', '$', '%'].zipIdx 0xA0 ++
      ['\'', ')', '(', '*', '+', ',', '-', '.', '/', '0', '1', '2', '3', '4', '5', '6', '7', '8',
       '9', ':', ';', '<', '=', '>', '?'].zipIdx 0xA7 ++
      ['}', ']', '{', '[', '|'].zipIdx 0xFB
    special_distinct := by decide }

/-- Arabic letters, with right-to-left signs that are preferred to those of ASCII. -/
def macArabic : CodePage :=
  { CodePage.ofRows 0x80
      ["Ä\u00a0ÇÉÑÖÜáàâä\u06ba«çéè", "êëí…îïñó»ôö÷úùûü", "     ٪      ،   ",
       "\u0660\u0661\u0662\u0663\u0664\u0665\u0666\u0667\u0668\u0669 \u061b   \u061f",
       "\u066d\u0621\u0622\u0623\u0624\u0625\u0626\u0627\u0628\u0629\u062a\u062b\u062c\u062d\u062e\u062f",
       "\u0630\u0631\u0632\u0633\u0634\u0635\u0636\u0637\u0638\u0639\u063a     ",
       "\u0640\u0641\u0642\u0643\u0644\u0645\u0646\u0647\u0648\u0649\u064a\u064b\u064c\u064d\u064e\u064f",
       "\u0650\u0651\u0652\u067e\u0679\u0686\u06d5\u06a4\u06af\u0688\u0691   \u0698\u06d2"] with
    special :=
      [' ', '!', '"', '#', '$'].zipIdx 0xA0 ++ ['&', '\'', '(', ')', '*', '+'].zipIdx 0xA6 ++
      ['-', '.', '/'].zipIdx 0xAD ++ [':'].zipIdx 0xBA ++ ['<', '=', '>'].zipIdx 0xBC ++
      ['[', '\\', ']', '^', '_'].zipIdx 0xDB ++ ['{', '|', '}'].zipIdx 0xFB
    special_distinct := by decide }

/-- Thai letters; marks that are moved to fit the letter have private codes. -/
def macThai : CodePage :=
  .ofRows 0x80
    ["«»…\uf88c\uf88f\uf892\uf895\uf898\uf88b\uf88e\uf891\uf894\uf897“”\uf899",
     " •\uf884\uf889\uf885\uf886\uf887\uf888\uf88a\uf88d\uf890\uf893\uf896‘’ ",
     "\u00a0กขฃคฅฆงจฉชซฌญฎฏ", "ฐฑฒณดตถทธนบปผฝพฟ",
     "ภมยรฤลฦวศษสหฬอฮฯ", "ะ\u0e31าำ\u0e34\u0e35\u0e36\u0e37\u0e38\u0e39\u0e3a\ufeff\u200b–—฿",
     "เแโใไๅ\u0e46\u0e47\u0e48\u0e49\u0e4a\u0e4b\u0e4c\u0e4d™๏", "๐๑๒๓๔๕๖๗๘๙®©    "]

end HiveDump.CodePage
