import HiveDump.Markup.Document
import HiveDump.Markup.Reader

/-!
# Parsing documents

`Markup.parse?` finds the tree that the bytes of a document stand for, as a parser of XML does: the
bytes are UTF-8, a line ends with a line feed however it is written, tags match and are nested, no
tag carries a name twice, names are names, and there is one root. What is not well formed has no
tree.

`Tree.joined` is a tree with no two texts side by side, and none that is empty: a document does not
tell where one text ends and the next begins.
-/

namespace HiveDump

instance Token.decidableWellFormed : (t : Token) → Decidable t.WellFormed
  | declaration _ => inferInstanceAs (Decidable False)
  | startTag name attributes =>
    inferInstanceAs (Decidable (Markup.isName name = true ∧
      (∀ a ∈ attributes, Markup.isName a.name = true ∧ Markup.legal a.value = true) ∧
        (attributes.map (·.name)).Nodup))
  | text content => inferInstanceAs (Decidable (Markup.legal content = true))
  | endTag name => inferInstanceAs (Decidable (Markup.isName name = true))

namespace Markup

/-- A text whose lines all end with a line feed. -/
def lineEnds : List Char → List Char
  | [] => []
  | '\r' :: '\n' :: cs => '\n' :: lineEnds cs
  | c :: cs => (if c = '\r' then '\n' else c) :: lineEnds cs

/-- The root element of the document that bytes stand for. -/
def parse? (b : Bytes) : Option Tree := do
  let text ← Utf8.decode? b
  match ← read? (lineEnds text) with
  | .declaration label :: ts =>
    if Charset.ofLabel? label = some .utf8 ∧ ∀ t ∈ ts, t.WellFormed then
      Tree.ofTokens? (.declaration label :: ts)
    else none
  | _ => none

/-! ## Text beside text -/

namespace Tree

/-- Trees in front of which a text stands. -/
def join (content : String) : List Tree → List Tree
  | text more :: ts => text (content ++ more) :: ts
  | ts => if content.isEmpty then ts else text content :: ts

mutual

/-- A tree with no two texts side by side in it, and none that is empty. -/
def joined : Tree → Tree
  | text content => text content
  | element name attributes inside => element name attributes (joinedForest inside)

/-- Trees side by side, no two of them texts that stand side by side. -/
def joinedForest : List Tree → List Tree
  | [] => []
  | t :: ts =>
    match t with
    | text content => join content (joinedForest ts)
    | element _ _ _ => t.joined :: joinedForest ts

end

end Tree

end Markup

end HiveDump
