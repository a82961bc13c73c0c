import HiveDump.Markup.Eastern.Japanese
import HiveDump.Markup.Eastern.Korean
import HiveDump.Markup.Eastern.Simplified
import HiveDump.Markup.Eastern.Traditional

/-!
# Encodings of the East Asian scripts

Encodings of Chinese, Japanese and Korean in which the bytes of a character do not depend on what
stands in front of it.
-/

namespace HiveDump

/-- An encoding of an East Asian script. -/
inductive Eastern
  | eucJp
  | shiftJis
  | cp932
  | eucCn
  | gbk
  | cp936
  | gb18030
  | big5
  | cp950
  | hkscs
  | eucTw
  | eucKr
  | cp949
  | johab
  deriving DecidableEq, Repr

namespace Eastern

/-- The bytes of a character, if the encoding has it. -/
def encode? : Eastern → Char → Option Bytes
  | eucJp => eucJp?
  | shiftJis => shiftJis?
  | cp932 => cp932?
  | eucCn => eucCn?
  | gbk => gbk?
  | cp936 => cp936?
  | gb18030 => gb18030?
  | big5 => big5?
  | cp950 => cp950?
  | hkscs => hkscs?
  | eucTw => eucTw?
  | eucKr => eucKr?
  | cp949 => cp949?
  | johab => johab?

/-- The encodings that have yen, overline or won signs in place of characters of ASCII. -/
def isNational : Eastern → Bool
  | shiftJis | johab => true
  | _ => false

theorem ascii?_of_lt {c : Char} (h : c.toNat < 0x80) : ascii? c = some [UInt8.ofNat c.toNat] := by
  simp [ascii?, h]

/-- Where ASCII is not replaced in part, its characters are written as they are. -/
theorem encode?_of_ascii {e : Eastern} (national : e.isNational = false) {c : Char}
    (h : c.toNat < 0x80) : e.encode? c = some [UInt8.ofNat c.toNat] := by
  cases e <;> simp_all [isNational, encode?, eucJp?, cp932?, eucCn?, gbk?, cp936?, gb18030?, big5?,
    cp950?, hkscs?, eucTw?, eucKr?, cp949?, ascii?_of_lt]

end Eastern

end HiveDump
