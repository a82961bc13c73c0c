import HiveDump.Markup.CodePage.Basic

/-!
# Code pages of terminals and other systems

Further sets of characters with one byte each, all of which agree with ASCII. A code that stands for
nothing is shown as a blank.
-/

namespace HiveDump.CodePage

/-- Cyrillic letters in the order of their Latin counterparts. -/
def koi8r : CodePage :=
  .ofRows 0x80
    ["─│┌┐└┘├┤┬┴┼▀▄█▌▐", "░▒▓⌠■∙√≈≤≥\u00a0⌡°²·÷", "═║╒ё╓╔╕╖╗╘╙╚╛╜╝╞", "╟╠╡Ё╢╣╤╥╦╧╨╩╪╫╬©",
     "юабцдефгхийклмно", "пярстужвьызшэщчъ", "ЮАБЦДЕФГХИЙКЛМНО", "ПЯРСТУЖВЬЫЗШЭЩЧЪ"]

/-- Cyrillic letters with those of Ukrainian. -/
def koi8u : CodePage :=
  .ofRows 0x80
    ["─│┌┐└┘├┤┬┴┼▀▄█▌▐", "░▒▓⌠■∙√≈≤≥\u00a0⌡°²·÷", "═║╒ёє╔ії╗╘╙╚╛ґ╝╞", "╟╠╡ЁЄ╣ІЇ╦╧╨╩╪Ґ╬©",
     "юабцдефгхийклмно", "пярстужвьызшэщчъ", "ЮАБЦДЕФГХИЙКЛМНО", "ПЯРСТУЖВЬЫЗШЭЩЧЪ"]

/-- Cyrillic letters with those of Tajik. -/
def koi8t : CodePage :=
  .ofRows 0x80
    ["қғ‚Ғ„…†‡ ‰ҳ‹ҲҷҶ ", "Қ‘’“”•–— ™ ›    ", " ӯӮё¤ӣ¦§   «¬\u00ad® ", "°±²Ё Ӣ¶· № »   ©",
     "юабцдефгхийклмно", "пярстужвьызшэщчъ", "ЮАБЦДЕФГХИЙКЛМНО", "ПЯРСТУЖВЬЫЗШЭЩЧЪ"]

/-- Latin letters and frames. -/
def cp850 : CodePage :=
  .ofRows 0x80
    ["ÇüéâäàåçêëèïîìÄÅ", "ÉæÆôöòûùÿÖÜø£Ø×ƒ", "áíóúñÑªº¿®¬½¼¡«»", "░▒▓│┤ÁÂÀ©╣║╗╝¢¥┐",
     "└┴┬├─┼ãÃ╚╔╩╦╠═╬¤", "ðÐÊËÈıÍÎÏ┘┌█▄¦Ì▀", "ÓßÔÒõÕµþÞÚÛÙýÝ¯´", "\u00ad±‗¾¶§÷¸°¨·¹³²■\u00a0"]

/-- Hebrew letters and frames. -/
def cp862 : CodePage :=
  .ofRows 0x80
    ["\u05d0\u05d1\u05d2\u05d3\u05d4\u05d5\u05d6\u05d7\u05d8\u05d9\u05da\u05db\u05dc\u05dd\u05de\u05df",
     "\u05e0\u05e1\u05e2\u05e3\u05e4\u05e5\u05e6\u05e7\u05e8\u05e9\u05ea¢£¥₧ƒ", "áíóúñÑªº¿⌐¬½¼¡«»",
     "░▒▓│┤╡╢╖╕╣║╗╝╜╛┐", "└┴┬├─┼╞╟╚╔╩╦╠═╬╧", "╨╤╥╙╘╒╓╫╪┘┌█▄▌▐▀", "αßΓπΣσµτΦΘΩδ∞φε∩",
     "≡±≥≤⌠⌡÷≈°∙·√\u207f²■\u00a0"]

/-- Cyrillic letters and frames. -/
def cp866 : CodePage :=
  .ofRows 0x80
    ["АБВГДЕЖЗИЙКЛМНОП", "РСТУФХЦЧШЩЪЫЬЭЮЯ", "абвгдежзийклмноп", "░▒▓│┤╡╢╖╕╣║╗╝╜╛┐",
     "└┴┬├─┼╞╟╚╔╩╦╠═╬╧", "╨╤╥╙╘╒╓╫╪┘┌█▄▌▐▀", "рстуфхцчшщъыьэюя", "ЁёЄєЇїЎў°∙·√№¤■\u00a0"]

/-- Thai letters without control characters. -/
def thai : CodePage :=
  .ofRows 0x80
    ["                ", "                ", " กขฃคฅฆงจฉชซฌญฎฏ", "ฐฑฒณดตถทธนบปผฝพฟ",
     "ภมยรฤลฦวศษสหฬอฮฯ", "ะ\u0e31าำ\u0e34\u0e35\u0e36\u0e37\u0e38\u0e39\u0e3a    ฿",
     "เแโใไๅ\u0e46\u0e47\u0e48\u0e49\u0e4a\u0e4b\u0e4c\u0e4d\u0e4e๏", "๐๑๒๓๔๕๖๗๘๙๚๛    "]

/-- Latin letters of western Europe on terminals. -/
def roman8 : CodePage :=
  .ofRows 0xA0
    ["\u00a0ÀÂÈÊËÎÏ´\u02cb\u02c6¨˜ÙÛ₤", "¯Ýý°ÇçÑñ¡¿¤£¥§ƒ¢", "âêôûáéóúàèòùäëöü", "ÅîØÆåíøæÄìÖÜÉïßÔ",
     "ÁÃãÐðÍÌÓÒÕõŠšÚŸÿ", "Þþ·µ¶¾—¼½ªº«■»± "]

/-- Cyrillic letters of Asian languages. -/
def pt154 : CodePage :=
  .ofRows 0x80
    ["ҖҒӮғ„…ҶҮҲүҠӢҢҚҺҸ", "җ‘’“”•–—ҳҷҡӣңқһҹ", "\u00a0ЎўЈӨҘҰ§Ё©Ә«¬ӯ®Ҝ", "°ұІіҙө¶·ё№ә»јҪҫҝ",
     "АБВГДЕЖЗИЙКЛМНОП", "РСТУФХЦЧШЩЪЫЬЭЮЯ", "абвгдежзийклмноп", "рстуфхцчшщъыьэюя"]

/-- Cyrillic letters with those of Kazakh. -/
def rk1048 : CodePage :=
  .ofRows 0x80
    ["ЂЃ‚ѓ„…†‡€‰Љ‹ЊҚҺЏ", "ђ‘’“”•–— ™љ›њқһџ", "\u00a0ҰұӘ¤Ө¦§Ё©Ғ«¬\u00ad®Ү", "°±Ііөµ¶·ё№ғ»әҢңү",
     "АБВГДЕЖЗИЙКЛМНОП", "РСТУФХЦЧШЩЪЫЬЭЮЯ", "абвгдежзийклмноп", "рстуфхцчшщъыьэюя"]

/-- Latin letters of western Europe. -/
def macRoman : CodePage :=
  .ofRows 0x80
    ["ÄÅÇÉÑÖÜáàâäãåçéè", "êëíìîïñóòôöõúùûü", "†°¢£§•¶ß®©™´¨≠ÆØ", "∞±≤≥¥µ∂∑∏π∫ªº\u2126æø",
     "¿¡¬√ƒ≈∆«»…\u00a0ÀÃÕŒœ", "–—“”‘’÷◊ÿŸ⁄¤‹›ﬁﬂ", "‡·‚„‰ÂÊÁËÈÍÎÏÌÓÔ",
     " ÒÚÛÙı\u02c6˜¯˘˙˚¸˝˛\u02c7"]

/-- Latin letters of central Europe. -/
def macCentral : CodePage :=
  .ofRows 0x80
    ["ÄĀāÉĄÖÜáąČäčĆćéŹ", "źĎíďĒēĖóėôöõúĚěü", "†°Ę£§•¶ß®©™ę¨≠ģĮ", "įĪ≤≥īĶ∂∑łĻļĽľĹĺŅ",
     "ņŃ¬√ńŇ∆«»…\u00a0ňŐÕőŌ", "–—“”‘’÷◊ōŔŕŘ‹›řŖ", "ŗŠ‚„šŚśÁŤťÍŽžŪÓÔ", "ūŮÚůŰűŲųÝýķŻŁżĢ\u02c7"]

/-- Latin letters of Iceland. -/
def macIceland : CodePage :=
  .ofRows 0x80
    ["ÄÅÇÉÑÖÜáàâäãåçéè", "êëíìîïñóòôöõúùûü", "Ý°¢£§•¶ß®©™´¨≠ÆØ", "∞±≤≥¥µ∂∑∏π∫ªº\u2126æø",
     "¿¡¬√ƒ≈∆«»…\u00a0ÀÃÕŒœ", "–—“”‘’÷◊ÿŸ⁄¤ÐðÞþ", "ý·‚„‰ÂÊÁËÈÍÎÏÌÓÔ",
     " ÒÚÛÙı\u02c6˜¯˘˙˚¸˝˛\u02c7"]

/-- Cyrillic letters. -/
def macCyrillic : CodePage :=
  .ofRows 0x80
    ["АБВГДЕЖЗИЙКЛМНОП", "РСТУФХЦЧШЩЪЫЬЭЮЯ", "†°¢£§•¶І®©™Ђђ≠Ѓѓ", "∞±≤≥іµ∂ЈЄєЇїЉљЊњ",
     "јЅ¬√ƒ≈∆«»…\u00a0ЋћЌќѕ", "–—“”‘’÷„ЎўЏџ№Ёёя", "абвгдежзийклмноп", "рстуфхцчшщъыьэю¤"]

/-- Greek letters. -/
def macGreek : CodePage :=
  .ofRows 0x80
    ["Ä¹²É³ÖÜ΅àâä΄¨çéè", "êë£™îï•½‰ôö¦\u00adùûü", "†ΓΔΘΛΞΠß®©ΣΪ§≠°\u0387", "Α±≤≥¥ΒΕΖΗΙΚΜΦΫΨΩ",
     "άΝ¬ΟΡ≈Τ«»…\u00a0ΥΧΆΈœ", "–―“”‘’÷ΉΊΌΎέήίόΏ", "ύαβψδεφγηιξκλμνο", "πώρστθωςχυζϊϋΐΰ "]

/-- Latin letters of Turkey. -/
def macTurkish : CodePage :=
  .ofRows 0x80
    ["ÄÅÇÉÑÖÜáàâäãåçéè", "êëíìîïñóòôöõúùûü", "†°¢£§•¶ß®©™´¨≠ÆØ", "∞±≤≥¥µ∂∑∏π∫ªº\u2126æø",
     "¿¡¬√ƒ≈∆«»…\u00a0ÀÃÕŒœ", "–—“”‘’÷◊ÿŸĞğİıŞş", "‡·‚„‰ÂÊÁËÈÍÎÏÌÓÔ",
     " ÒÚÛÙ \u02c6˜¯˘˙˚¸˝˛\u02c7"]

end HiveDump.CodePage
