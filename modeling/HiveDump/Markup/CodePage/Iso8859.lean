import HiveDump.Markup.CodePage.Basic

/-!
# The code pages of ISO 8859

They agree with ASCII up to 0x7F and hold control characters up to 0x9F. The part in a definition's
name is that of the standard; part 1 is `CodePage.latin1`, and part 12 was never made. A code that
stands for nothing is shown as a blank.
-/

namespace HiveDump.CodePage

/-- Latin letters of central Europe. -/
def iso2 : CodePage :=
  .ofRows 0xA0
    ["\u00a0Ą˘Ł¤ĽŚ§¨ŠŞŤŹ\u00adŽŻ", "°ą˛ł´ľś\u02c7¸šşťź˝žż", "ŔÁÂĂÄĹĆÇČÉĘËĚÍÎĎ", "ĐŃŇÓÔŐÖ×ŘŮÚŰÜÝŢß",
     "ŕáâăäĺćçčéęëěíîď", "đńňóôőö÷řůúűüýţ˙"]

/-- Latin letters of southern Europe. -/
def iso3 : CodePage :=
  .ofRows 0xA0
    ["\u00a0Ħ˘£¤ Ĥ§¨İŞĞĴ\u00ad Ż", "°ħ²³´µĥ·¸ışğĵ½ ż", "ÀÁÂ ÄĊĈÇÈÉÊËÌÍÎÏ", " ÑÒÓÔĠÖ×ĜÙÚÛÜŬŜß",
     "àáâ äċĉçèéêëìíîï", " ñòóôġö÷ĝùúûüŭŝ˙"]

/-- Latin letters of northern Europe. -/
def iso4 : CodePage :=
  .ofRows 0xA0
    ["\u00a0ĄĸŖ¤ĨĻ§¨ŠĒĢŦ\u00adŽ¯", "°ą˛ŗ´ĩļ\u02c7¸šēģŧŊžŋ", "ĀÁÂÃÄÅÆĮČÉĘËĖÍÎĪ", "ĐŅŌĶÔÕÖ×ØŲÚÛÜŨŪß",
     "āáâãäåæįčéęëėíîī", "đņōķôõö÷øųúûüũū˙"]

/-- Cyrillic letters. -/
def iso5 : CodePage :=
  .ofRows 0xA0
    ["\u00a0ЁЂЃЄЅІЇЈЉЊЋЌ\u00adЎЏ", "АБВГДЕЖЗИЙКЛМНОП", "РСТУФХЦЧШЩЪЫЬЭЮЯ", "абвгдежзийклмноп",
     "рстуфхцчшщъыьэюя", "№ёђѓєѕіїјљњћќ§ўџ"]

/-- Arabic letters. -/
def iso6 : CodePage :=
  .ofRows 0xA0
    ["\u00a0   ¤       ،\u00ad  ", "           \u061b   \u061f",
     " \u0621\u0622\u0623\u0624\u0625\u0626\u0627\u0628\u0629\u062a\u062b\u062c\u062d\u062e\u062f",
     "\u0630\u0631\u0632\u0633\u0634\u0635\u0636\u0637\u0638\u0639\u063a     ",
     "\u0640\u0641\u0642\u0643\u0644\u0645\u0646\u0647\u0648\u0649\u064a\u064b\u064c\u064d\u064e\u064f",
     "\u0650\u0651\u0652             "]

/-- Greek letters. -/
def iso7 : CodePage :=
  .ofRows 0xA0
    ["\u00a0‘’£€₯¦§¨©\u037a«¬\u00ad ―", "°±²³΄΅Ά·ΈΉΊ»Ό½ΎΏ", "ΐΑΒΓΔΕΖΗΘΙΚΛΜΝΞΟ", "ΠΡ ΣΤΥΦΧΨΩΪΫάέήί",
     "ΰαβγδεζηθικλμνξο", "πρςστυφχψωϊϋόύώ "]

/-- Hebrew letters. -/
def iso8 : CodePage :=
  .ofRows 0xA0
    ["\u00a0 ¢£¤¥¦§¨©×«¬\u00ad®¯", "°±²³´µ¶·¸¹÷»¼½¾ ", "                ", "               ‗",
     "\u05d0\u05d1\u05d2\u05d3\u05d4\u05d5\u05d6\u05d7\u05d8\u05d9\u05da\u05db\u05dc\u05dd\u05de\u05df",
     "\u05e0\u05e1\u05e2\u05e3\u05e4\u05e5\u05e6\u05e7\u05e8\u05e9\u05ea  \u200e\u200f "]

/-- Latin letters of western Europe and Turkey. -/
def iso9 : CodePage :=
  .ofRows 0xA0
    ["\u00a0¡¢£¤¥¦§¨©ª«¬\u00ad®¯", "°±²³´µ¶·¸¹º»¼½¾¿", "ÀÁÂÃÄÅÆÇÈÉÊËÌÍÎÏ", "ĞÑÒÓÔÕÖ×ØÙÚÛÜİŞß",
     "àáâãäåæçèéêëìíîï", "ğñòóôõö÷øùúûüışÿ"]

/-- Latin letters of the Nordic countries. -/
def iso10 : CodePage :=
  .ofRows 0xA0
    ["\u00a0ĄĒĢĪĨĶ§ĻĐŠŦŽ\u00adŪŊ", "°ąēģīĩķ·ļđšŧž―ūŋ", "ĀÁÂÃÄÅÆĮČÉĘËĖÍÎÏ", "ÐŅŌÓÔÕÖŨØŲÚÛÜÝÞß",
     "āáâãäåæįčéęëėíîï", "ðņōóôõöũøųúûüýþĸ"]

/-- Thai letters. -/
def iso11 : CodePage :=
  .ofRows 0xA0
    ["\u00a0กขฃคฅฆงจฉชซฌญฎฏ", "ฐฑฒณดตถทธนบปผฝพฟ", "ภมยรฤลฦวศษสหฬอฮฯ",
     "ะ\u0e31าำ\u0e34\u0e35\u0e36\u0e37\u0e38\u0e39\u0e3a    ฿",
     "เแโใไๅ\u0e46\u0e47\u0e48\u0e49\u0e4a\u0e4b\u0e4c\u0e4d\u0e4e๏", "๐๑๒๓๔๕๖๗๘๙๚๛    "]

/-- Latin letters of the Baltic countries. -/
def iso13 : CodePage :=
  .ofRows 0xA0
    ["\u00a0”¢£¤„¦§Ø©Ŗ«¬\u00ad®Æ", "°±²³“µ¶·ø¹ŗ»¼½¾æ", "ĄĮĀĆÄÅĘĒČÉŹĖĢĶĪĻ", "ŠŃŅÓŌÕÖ×ŲŁŚŪÜŻŽß",
     "ąįāćäåęēčéźėģķīļ", "šńņóōõö÷ųłśūüżž’"]

/-- Latin letters of the Celtic languages. -/
def iso14 : CodePage :=
  .ofRows 0xA0
    ["\u00a0Ḃḃ£ĊċḊ§Ẁ©ẂḋỲ\u00ad®Ÿ", "ḞḟĠġṀṁ¶ṖẁṗẃṠỳẄẅṡ", "ÀÁÂÃÄÅÆÇÈÉÊËÌÍÎÏ", "ŴÑÒÓÔÕÖṪØÙÚÛÜÝŶß",
     "àáâãäåæçèéêëìíîï", "ŵñòóôõöṫøùúûüýŷÿ"]

/-- Latin letters of western Europe, with the euro sign. -/
def iso15 : CodePage :=
  .ofRows 0xA0
    ["\u00a0¡¢£€¥Š§š©ª«¬\u00ad®¯", "°±²³Žµ¶·ž¹º»ŒœŸ¿", "ÀÁÂÃÄÅÆÇÈÉÊËÌÍÎÏ", "ÐÑÒÓÔÕÖ×ØÙÚÛÜÝÞß",
     "àáâãäåæçèéêëìíîï", "ðñòóôõö÷øùúûüýþÿ"]

/-- Latin letters of south-eastern Europe. -/
def iso16 : CodePage :=
  .ofRows 0xA0
    ["\u00a0ĄąŁ€„Š§š©Ș«Ź\u00adźŻ", "°±ČłŽ”¶·žčș»ŒœŸż", "ÀÁÂĂÄĆÆÇÈÉÊËÌÍÎÏ", "ĐŃÒÓÔŐÖŚŰÙÚÛÜĘȚß",
     "àáâăäćæçèéêëìíîï", "đńòóôőöśűùúûüęțÿ"]

end HiveDump.CodePage
