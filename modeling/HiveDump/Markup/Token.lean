import HiveDump.Markup.Charset

/-!
# Markup

A document is a sequence of tokens: the declaration, start tags with their attributes, text and end
tags. `Token.render` writes a token; nothing is indented, and an element without content still has
an end tag.

Attribute values escape `&`, `<`, `>`, the double quote, tab, line feed and carriage return; text
escapes `&`, `<`, `>` and carriage return. Names and texts with characters that no document may
hold are refused beforehand (`legal`).

Main statements: `render_append`, the text of a document is the text of its parts in order, and
`encode_append`, so are its bytes in an encoding that is not contextual.
-/

namespace HiveDump

/-- An attribute of an element. -/
structure Attribute where
  name : String
  value : String
  deriving DecidableEq, Repr

/-- A piece of markup. -/
inductive Token
  | declaration (label : String)
  | startTag (name : String) (attributes : List Attribute)
  | text (content : String)
  | endTag (name : String)
  deriving DecidableEq, Repr

namespace Markup

/-- The characters that a document may hold. -/
def isLegal (c : Char) : Bool :=
  if c.toNat < 0x20 then c == '\t' || c == '\n' || c == '\r'
  else c.toNat ≠ 0xFFFE && c.toNat ≠ 0xFFFF

/-- Whether a document may hold a text. -/
def legal (s : String) : Bool :=
  s.toList.all isLegal

/-- A character of an attribute value. -/
def escapeInValue : Char → List Char
  | '&' => "&amp;".toList
  | '<' => "&lt;".toList
  | '>' => "&gt;".toList
  | '"' => "&quot;".toList
  | '\n' => "&#10;".toList
  | '\t' => "&#9;".toList
  | '\r' => "&#13;".toList
  | c => [c]

/-- A character of a text. -/
def escapeInText : Char → List Char
  | '&' => "&amp;".toList
  | '<' => "&lt;".toList
  | '>' => "&gt;".toList
  | '\r' => "&#13;".toList
  | c => [c]

end Markup

namespace Attribute

/-- An attribute as it stands in a start tag. -/
def render (a : Attribute) : List Char :=
  ' ' :: a.name.toList ++ '=' :: '"' :: a.value.toList.flatMap Markup.escapeInValue ++ ['"']

end Attribute

namespace Token

/-- The text of a token. -/
def render : Token → List Char
  | declaration label =>
    "<?xml version='1.0' encoding='".toList ++ label.toList ++ "'?>\n".toList
  | startTag name attributes =>
    '<' :: name.toList ++ attributes.flatMap Attribute.render ++ ['>']
  | text content => content.toList.flatMap Markup.escapeInText
  | endTag name => '<' :: '/' :: name.toList ++ ['>']

/-- Whether a token is a declaration. -/
def isDeclaration : Token → Bool
  | declaration _ => true
  | _ => false

/-- The bytes of a token in an encoding that is not contextual; a declaration stands behind the mark
of its encoding. -/
def encode (cs : Charset) (t : Token) : Bytes :=
  match t with
  | declaration _ => cs.mark ++ cs.encode t.render
  | _ => cs.encode t.render

end Token

namespace Markup

/-- The text of a sequence of tokens. -/
def render (ts : List Token) : List Char :=
  ts.flatMap Token.render

/-- The tokens of each document; a declaration starts one. -/
def documents (ts : List Token) : List (List Token) :=
  ts.splitBy fun _ t => !t.isDeclaration

/-- The bytes of a sequence of tokens. Each document starts afresh. -/
def encode (cs : Charset) (ts : List Token) : Bytes :=
  if cs.isContextual then (documents ts).flatMap fun d => cs.encode (render d)
  else ts.flatMap (Token.encode cs)

@[simp] theorem render_append (s t : List Token) : render (s ++ t) = render s ++ render t := by
  simp [render]

theorem encode_eq_flatMap {cs : Charset} (h : cs.isContextual = false) (ts : List Token) :
    encode cs ts = ts.flatMap (Token.encode cs) := by
  simp [encode, h]

theorem encode_append {cs : Charset} (h : cs.isContextual = false) (s t : List Token) :
    encode cs (s ++ t) = encode cs s ++ encode cs t := by
  simp [encode_eq_flatMap h]

theorem encode_utf8 (ts : List Token) : encode .utf8 ts = Utf8.encodeChars (render ts) := by
  have each (t : Token) : Token.encode .utf8 t = Utf8.encodeChars t.render := by
    cases t <;> rfl
  induction ts with
  | nil => rfl
  | cons t ts ih =>
    change Token.encode .utf8 t ++ encode .utf8 ts = Utf8.encodeChars (t.render ++ render ts)
    rw [each, ih, Utf8.encodeChars_append]

end Markup

end HiveDump
