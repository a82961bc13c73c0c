import HiveDump.Markup.Tree

/-!
# Complete documents

A document in UTF-8 is a declaration and one element with everything inside it. It is well formed if
its tags carry names, no tag carries a name twice, and its texts and values hold no character that
no document may hold; that tags match and are nested comes from the tree.

Names are those of the grammar of XML 1.0: a letter, underscore or colon, then these and digits,
full stops and hyphens, where letters are given by ranges of characters.
-/

namespace HiveDump.Markup

/-- Characters other than ASCII letters that a name may start with, as ranges. -/
def nameStarts : List (Nat × Nat) :=
  [(0xC0, 0xD6), (0xD8, 0xF6), (0xF8, 0x2FF), (0x370, 0x37D), (0x37F, 0x1FFF), (0x200C, 0x200D),
    (0x2070, 0x218F), (0x2C00, 0x2FEF), (0x3001, 0xD7FF), (0xF900, 0xFDCF), (0xFDF0, 0xFFFD),
    (0x10000, 0xEFFFF)]

/-- Characters that may stand in a name but not start it, as ranges. -/
def nameParts : List (Nat × Nat) :=
  [(0x2D, 0x2E), (0x30, 0x39), (0xB7, 0xB7), (0x300, 0x36F), (0x203F, 0x2040)]

/-- Whether a character lies in one of the ranges. -/
def inRanges (ranges : List (Nat × Nat)) (c : Char) : Bool :=
  ranges.any fun r => r.1 ≤ c.toNat && c.toNat ≤ r.2

/-- Whether a name may start with the character. -/
def startsName (c : Char) : Bool :=
  c.isAlpha || c == '_' || c == ':' || inRanges nameStarts c

/-- Whether the character may stand in a name. -/
def inName (c : Char) : Bool :=
  startsName c || inRanges nameParts c

/-- Whether a text is a name. -/
def isName (s : String) : Bool :=
  match s.toList with
  | [] => false
  | c :: cs => startsName c && cs.all inName

end HiveDump.Markup

namespace HiveDump.Token

open Markup

/-- Whether a token may stand behind the declaration of a document. -/
def WellFormed : Token → Prop
  | declaration _ => False
  | startTag name attributes =>
    isName name = true ∧ (∀ a ∈ attributes, isName a.name = true ∧ legal a.value = true) ∧
      (attributes.map (·.name)).Nodup
  | text content => legal content = true
  | endTag name => isName name = true

end HiveDump.Token

namespace HiveDump.Markup

/-- Whether a tree is an element. -/
def Tree.IsElement : Tree → Prop
  | .element _ _ _ => True
  | .text _ => False

/-- The tokens of a document. -/
def Tree.document (root : Tree) : List Token :=
  .declaration "utf-8" :: root.tokens

/-- Whether the bytes are the complete document of a well formed element. -/
structure Writes (root : Tree) (b : Bytes) : Prop where
  element : root.IsElement
  wellFormed : ∀ t ∈ root.tokens, t.WellFormed
  bytes : b = encode .utf8 root.document

/-- Whether the bytes are a complete well formed document. -/
def IsDocument (b : Bytes) : Prop :=
  ∃ root, Writes root b

/-- Whether the bytes are a proper part, from the start, of a well formed document. -/
def IsCutOff (b : Bytes) : Prop :=
  ∃ more, more ≠ [] ∧ IsDocument (b ++ more)

end HiveDump.Markup
