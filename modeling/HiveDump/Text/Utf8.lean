import HiveDump.Bytes

/-!
# UTF-8 text

The bytes of a text as core encodes and decodes its characters, one to four bytes each. The zero
character is the only one whose bytes hold a zero byte, so cutting text at a zero byte is cutting it
at a zero character.
-/

namespace HiveDump.Utf8

/-- The bytes of a list of characters. -/
def encodeChars (s : List Char) : Bytes :=
  s.flatMap String.utf8EncodeChar

/-- The characters that bytes stand for. -/
def decode? (b : Bytes) : Option (List Char) :=
  b.toByteArray.utf8Decode?.map (·.toList)

/-- The bytes of a text. -/
def encode (s : String) : Bytes :=
  encodeChars s.toList

@[simp] theorem encodeChars_nil : encodeChars [] = [] := rfl

@[simp] theorem encodeChars_cons (c : Char) (s : List Char) :
    encodeChars (c :: s) = String.utf8EncodeChar c ++ encodeChars s := rfl

@[simp] theorem encodeChars_append (s t : List Char) :
    encodeChars (s ++ t) = encodeChars s ++ encodeChars t := by
  simp [encodeChars]

end HiveDump.Utf8
