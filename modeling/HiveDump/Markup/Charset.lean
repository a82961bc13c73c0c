import HiveDump.Markup.CodePage.Further
import HiveDump.Markup.CodePage.Iso8859
import HiveDump.Markup.CodePage.Regional
import HiveDump.Markup.CodePage.Windows
import HiveDump.Markup.Eastern
import HiveDump.Markup.SourceEscape
import HiveDump.Markup.Switching
import HiveDump.Text.Utf7
import HiveDump.Text.Utf8

/-!
# Character sets of documents

The encodings that a document can be written in: those of all characters, the code pages, and the
encodings of the East Asian scripts. A character that the encoding lacks is written as a reference,
`&#N;` with its code in decimal; language tags are left out.

Units of several bytes come in either order. A document may start with a mark that tells the order;
an encoding whose label names the order has none.

In most encodings the bytes of a character do not depend on the characters around it, so the bytes
of a text are those of its parts (`encode_append`). The others are contextual.
-/

namespace HiveDump

/-- Which byte of a number comes first. -/
inductive ByteOrder
  | little
  | big
  deriving DecidableEq, Repr

/-- The `width` low bytes of a number in an order. -/
def ByteOrder.store : ByteOrder → (width n : Nat) → Bytes
  | little => Bytes.ofLittleEndian
  | big => Bytes.ofBigEndian

/-- An encoding that documents are written in. -/
inductive Charset
  | utf8
  | utf16 (order : ByteOrder) (marked : Bool)
  | utf32 (order : ByteOrder) (marked : Bool)
  /-- Two bytes for each character below U+10000, and nothing for the others. -/
  | ucs2 (order : ByteOrder)
  /-- One byte for each of the first `n` characters. -/
  | first (n : Nat)
  | page (p : CodePage)
  | eastern (e : Eastern)
  | escapes (e : SourceEscape)
  | switching (e : Switching)
  | utf7
  /-- Two bytes for each character of a plane, and nothing for those of ASCII. -/
  | twoByte
  deriving DecidableEq, Repr

namespace Charset

/-! ## Labels -/

/-- Labels of encodings of all characters. Without a label, the system's own encoding is meant. -/
def unicodeLabels : List (List String × Charset) :=
  [(["utf-8", "utf8", "", "char"], utf8),
    (["utf-16", "utf16"], utf16 .little true),
    (["utf-16le"], utf16 .little false),
    (["utf-16be"], utf16 .big false),
    (["utf-32"], utf32 .big true),
    (["utf-32le", "ucs-4le", "ucs-4-internal", "wchar_t"], utf32 .little false),
    (["utf-32be", "ucs-4be", "ucs-4", "iso-10646-ucs-4", "csucs4", "ucs-4-swapped"],
      utf32 .big false),
    (["ucs-2le", "unicodelittle", "ucs-2-internal"], ucs2 .little),
    (["ucs-2be", "unicodebig", "unicode-1-1", "csunicode11", "ucs-2", "iso-10646-ucs-2",
      "csunicode", "ucs-2-swapped"], ucs2 .big),
    (["utf-7", "unicode-1-1-utf-7", "csunicode11utf7"], utf7),
    (["c99"], escapes .characters),
    (["java"], escapes .units)]

/-- Labels of the code pages of ISO 8859, and of ASCII. -/
def isoLabels : List (List String × Charset) :=
  [(["ascii", "us-ascii"], first 0x80),
    (["iso-8859-1", "iso-latin-1", "iso latin 1"], first 0x100),
    (["iso646-us", "iso_646.irv:1991", "iso-ir-6", "ansi_x3.4-1968",
      "ansi_x3.4-1986", "cp367", "ibm367", "us", "csascii"], page .ascii),
    (["iso_8859-1", "iso_8859-1:1987", "iso-ir-100", "cp819", "ibm819", "latin1",
      "l1", "csisolatin1", "iso8859-1"], page .latin1),
    (["iso-8859-2", "iso_8859-2", "iso_8859-2:1987", "iso-ir-101", "latin2", "l2", "csisolatin2",
      "iso8859-2"], page .iso2),
    (["iso-8859-3", "iso_8859-3", "iso_8859-3:1988", "iso-ir-109", "latin3", "l3", "csisolatin3",
      "iso8859-3"], page .iso3),
    (["iso-8859-4", "iso_8859-4", "iso_8859-4:1988", "iso-ir-110", "latin4", "l4", "csisolatin4",
      "iso8859-4"], page .iso4),
    (["iso-8859-5", "iso_8859-5", "iso_8859-5:1988", "iso-ir-144", "cyrillic",
      "csisolatincyrillic", "iso8859-5"], page .iso5),
    (["iso-8859-6", "iso_8859-6", "iso_8859-6:1987", "iso-ir-127", "ecma-114", "asmo-708",
      "arabic", "csisolatinarabic", "iso8859-6"], page .iso6),
    (["iso-8859-7", "iso_8859-7", "iso_8859-7:1987", "iso_8859-7:2003", "iso-ir-126", "ecma-118",
      "elot_928", "greek8", "greek", "csisolatingreek", "iso8859-7"], page .iso7),
    (["iso-8859-8", "iso_8859-8", "iso_8859-8:1988", "iso-ir-138", "hebrew", "csisolatinhebrew",
      "iso8859-8"], page .iso8),
    (["iso-8859-9", "iso_8859-9", "iso_8859-9:1989", "iso-ir-148", "latin5", "l5", "csisolatin5",
      "iso8859-9"], page .iso9),
    (["iso-8859-10", "iso_8859-10", "iso_8859-10:1992", "iso-ir-157", "latin6", "l6",
      "csisolatin6", "iso8859-10"], page .iso10),
    (["iso-8859-11", "iso_8859-11", "iso8859-11"], page .iso11),
    (["iso-8859-13", "iso_8859-13", "iso-ir-179", "latin7", "l7", "iso8859-13"], page .iso13),
    (["iso-8859-14", "iso_8859-14", "iso_8859-14:1998", "iso-ir-199", "latin8", "l8",
      "iso-celtic", "iso8859-14"], page .iso14),
    (["iso-8859-15", "iso_8859-15", "iso_8859-15:1998", "iso-ir-203", "latin-9", "iso8859-15"],
      page .iso15),
    (["iso-8859-16", "iso_8859-16", "iso_8859-16:2001", "iso-ir-226", "latin10", "l10",
      "iso8859-16"], page .iso16)]

/-- Labels of the other code pages. -/
def pageLabels : List (List String × Charset) :=
  [(["cp1250", "windows-1250", "ms-ee"], page .windows1250),
    (["cp1251", "windows-1251", "ms-cyrl"], page .windows1251),
    (["cp1252", "windows-1252", "ms-ansi"], page .windows1252),
    (["cp1253", "windows-1253", "ms-greek"], page .windows1253),
    (["cp1254", "windows-1254", "ms-turk"], page .windows1254),
    (["cp1255", "windows-1255", "ms-hebr"], page .windows1255),
    (["cp1256", "windows-1256", "ms-arab"], page .windows1256),
    (["cp1257", "windows-1257", "winbaltrim"], page .windows1257),
    (["cp1258", "windows-1258"], page .windows1258),
    (["cp874", "windows-874"], page .windows874),
    (["koi8-r", "cskoi8r"], page .koi8r),
    (["koi8-u"], page .koi8u),
    (["koi8-t"], page .koi8t),
    (["cp850", "ibm850", "850", "cspc850multilingual"], page .cp850),
    (["cp862", "ibm862", "862", "cspc862latinhebrew"], page .cp862),
    (["cp866", "ibm866", "866", "csibm866"], page .cp866),
    (["tis-620", "tis620", "tis620-0", "tis620.2529-1", "tis620.2533-0", "tis620.2533-1",
      "iso-ir-166"], page .thai),
    (["hp-roman8", "roman8", "r8", "cshproman8"], page .roman8),
    (["pt154", "ptcp154", "cp154", "cyrillic-asian", "csptcp154"], page .pt154),
    (["rk1048", "strk1048-2002", "kz-1048", "cskz1048"], page .rk1048),
    (["macroman", "macintosh", "mac", "csmacintosh"], page .macRoman),
    (["maccentraleurope"], page .macCentral),
    (["maciceland"], page .macIceland),
    (["maccyrillic"], page .macCyrillic),
    (["macgreek"], page .macGreek),
    (["macturkish"], page .macTurkish)]

/-- Labels of further code pages. -/
def furtherLabels : List (List String × Charset) :=
  [(["iso646-jp", "jis_c6220-1969-ro", "iso-ir-14", "jp", "csiso14jisc6220ro"], page .iso646Jp),
    (["iso646-cn", "gb_1988-80", "iso-ir-57", "cn", "csiso57gb1988"], page .iso646Cn),
    (["jis_x0201", "jisx0201-1976", "x0201", "cshalfwidthkatakana"], page .jis0201),
    (["koi8-ru"], page .koi8ru),
    (["cp1131"], page .cp1131),
    (["cp1133", "ibm-cp1133"], page .cp1133),
    (["mulelao-1"], page .muleLao),
    (["armscii-8"], page .armscii),
    (["georgian-academy"], page .georgianAcademy),
    (["georgian-ps"], page .georgianPs),
    (["viscii", "viscii1.1-1", "csviscii"], page .viscii),
    (["tcvn", "tcvn-5712", "tcvn5712-1", "tcvn5712-1:1993"], page .tcvn),
    (["nextstep"], page .nextstep),
    (["maccroatian"], page .macCroatian),
    (["macromania"], page .macRomania),
    (["macukraine"], page .macUkraine),
    (["machebrew"], page .macHebrew),
    (["macarabic"], page .macArabic),
    (["macthai"], page .macThai)]

/-- Labels of encodings of the East Asian scripts. -/
def easternLabels : List (List String × Charset) :=
  [(["euc-jp", "eucjp", "extended_unix_code_packed_format_for_japanese", "cseucpkdfmtjapanese"],
      eastern .eucJp),
    (["shift_jis", "shift-jis", "sjis", "ms_kanji", "csshiftjis"], eastern .shiftJis),
    (["cp932"], eastern .cp932),
    (["euc-cn", "euccn", "gb2312", "cn-gb", "csgb2312"], eastern .eucCn),
    (["gbk"], eastern .gbk),
    (["cp936", "ms936", "windows-936"], eastern .cp936),
    (["gb18030"], eastern .gb18030),
    (["big5", "big-5", "big-five", "bigfive", "cn-big5", "csbig5"], eastern .big5),
    (["cp950"], eastern .cp950),
    (["big5-hkscs", "big5hkscs"], eastern .hkscs),
    (["euc-tw", "euctw", "cseuctw"], eastern .eucTw),
    (["euc-kr", "euckr", "cseuckr"], eastern .eucKr),
    (["cp949", "uhc"], eastern .cp949),
    (["johab", "cp1361"], eastern .johab),
    (["iso-2022-jp", "csiso2022jp"], switching .iso2022Jp),
    (["iso-2022-jp-1"], switching .iso2022Jp1),
    (["iso-2022-jp-2", "csiso2022jp2"], switching .iso2022Jp2),
    (["iso-2022-kr", "csiso2022kr"], switching .iso2022Kr),
    (["iso-2022-cn", "csiso2022cn"], switching .iso2022Cn),
    (["iso-2022-cn-ext"], switching .iso2022CnExt),
    (["hz", "hz-gb-2312"], switching .hz)]

/-- Labels of planes of characters. -/
def planeLabels : List (List String × Charset) :=
  [(["jis_x0208", "jis_x0208-1983", "jis_x0208-1990", "jis0208", "x0208", "iso-ir-87",
      "jis_c6226-1983", "csiso87jisx0208", "jis_x0212", "jis_x0212.1990-0", "jis_x0212-1990",
      "x0212", "iso-ir-159", "csiso159jisx02121990", "gb_2312-80", "iso-ir-58", "csiso58gb231280",
      "chinese", "iso-ir-165", "cn-gb-isoir165", "ksc_5601", "ks_c_5601-1987", "ks_c_5601-1989",
      "iso-ir-149", "csksc56011987", "korean"], twoByte)]

/-- The labels of all encodings, in lower case. -/
def labels : List (List String × Charset) :=
  unicodeLabels ++ isoLabels ++ pageLabels ++ furtherLabels ++ easternLabels ++ planeLabels

/-- The encoding with a label; the case of ASCII letters does not matter. -/
def ofLabel? (label : String) : Option Charset :=
  (labels.find? fun e => e.1.contains label.toLower).map (·.2)

/-! ## Bytes -/

/-- What a document in this encoding starts with. -/
def mark : Charset → Bytes
  | utf16 order true => order.store 2 0xFEFF
  | utf32 order true => order.store 4 0xFEFF
  | _ => []

/-- Whether the bytes of a character depend on the characters around it. -/
def isContextual : Charset → Bool
  | eastern .hkscs | switching _ | utf7 => true
  | _ => false

/-- The bytes that stand for a character whatever is around it, if the encoding has such bytes. -/
def encodeChar? : Charset → Char → Option Bytes
  | utf8, c => some (String.utf8EncodeChar c)
  | utf16 order _, c => some ((Utf16.unitsOf c).flatMap (order.store 2))
  | utf32 order _, c => some (order.store 4 c.toNat)
  | ucs2 order, c => if c.toNat < 0x10000 then some (order.store 2 c.toNat) else none
  | first n, c => if c.toNat < n then some [UInt8.ofNat c.toNat] else none
  | page p, c => p.encode? c
  | eastern e, c => e.encode? c
  | escapes e, c => some (e.encode c)
  | switching _, _ | utf7, _ | twoByte, _ => none

/-- Whether markup can be written. -/
def writesMarkup (cs : Charset) : Bool :=
  cs.isContextual || (cs.encodeChar? '<').isSome

/-- The reference to a character by its code. -/
def reference (c : Char) : List Char :=
  '&' :: '#' :: Nat.toDigits 10 c.toNat ++ [';']

/-- The characters that tag a text with its language. -/
def isTag (c : Char) : Bool :=
  0xE0000 ≤ c.toNat && c.toNat < 0xE0080

/-- What is written for a character that the encoding lacks. -/
def instead : Charset → Char → List Char
  | first _, c => reference c
  | _, c => if isTag c then [] else reference c

/-- The bytes of a character, or of what is written for it. -/
def encodeChar (cs : Charset) (c : Char) : Bytes :=
  (cs.encodeChar? c).getD ((cs.instead c).flatMap fun d => (cs.encodeChar? d).getD [])

/-- The bytes of a text that starts a document. -/
def encode (cs : Charset) (text : List Char) : Bytes :=
  match cs with
  | eastern .hkscs => Eastern.encodePaired cs.encodeChar text
  | switching e => e.encode cs.instead text
  | utf7 => Utf7.encode text
  | _ => text.flatMap cs.encodeChar

theorem encode_eq_flatMap {cs : Charset} (h : cs.isContextual = false) (text : List Char) :
    cs.encode text = text.flatMap cs.encodeChar := by
  unfold encode
  split
  case h_1 => simp [isContextual] at h
  case h_2 => simp [isContextual] at h
  case h_3 => simp [isContextual] at h
  case h_4 => rfl

theorem encode_append {cs : Charset} (h : cs.isContextual = false) (s t : List Char) :
    cs.encode (s ++ t) = cs.encode s ++ cs.encode t := by
  simp [encode_eq_flatMap h]

theorem encode_utf8 (s : List Char) : utf8.encode s = Utf8.encodeChars s := rfl

end Charset

end HiveDump
