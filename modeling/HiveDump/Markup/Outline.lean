import HiveDump.Markup.Call
import HiveDump.Markup.Parsing

/-!
# What calls describe

The tree that the calls of a document describe. A call does at once to the trees what it says:
nothing is held back until a start tag is complete, and there is no output. Only the bytes of an
attribute are gathered until the attribute ends.

`described` closes the elements that are open behind the calls, and joins texts that stand side by
side.
-/

namespace HiveDump.Markup

namespace Tree.Growing

/-- With a further attribute of the innermost open element. -/
def withAttribute (g : Growing) (a : Attribute) : Growing :=
  match g.outer with
  | [] => g
  | (name, attributes, before) :: outer => ⟨g.here, (name, attributes ++ [a], before) :: outer⟩

/-- With the innermost open element closed. -/
def ended (g : Growing) : Growing :=
  match g.outer with
  | [] => g
  | (name, attributes, before) :: outer => ⟨before ++ [element name attributes g.here], outer⟩

/-- The trees once every open element is closed. -/
def finished (g : Growing) : List Tree :=
  g.outer.foldl (fun here (name, attributes, before) => before ++ [element name attributes here])
    g.here

end Tree.Growing

/-- What calls describe so far: the trees, and the attribute whose bytes are being gathered. -/
structure Outline where
  trees : Tree.Growing := {}
  gathered : Option (String × Bytes) := none

namespace Outline

/-- What a call describes in addition. -/
def take (o : Outline) : Call → Outline
  | .startElement name => { o with trees := ⟨[], (name, [], o.trees.here) :: o.trees.outer⟩ }
  | .endElement => { o with trees := o.trees.ended }
  | .writeAttribute name value => { o with trees := o.trees.withAttribute ⟨name, value⟩ }
  | .startAttribute name => { o with gathered := some (name, []) }
  | .writeBase64 data start length =>
    let stop := match length with
      | some n => start + n
      | none => (data.length : Int)
    { o with gathered := o.gathered.map fun (name, b) => (name, b ++ data.slice start stop) }
  | .endAttribute =>
    match o.gathered with
    | some (name, b) => ⟨o.trees.withAttribute ⟨name, Base64.text b⟩, none⟩
    | none => o
  | .writeText text =>
    if text.isEmpty then o
    else { o with trees := { o.trees with here := o.trees.here ++ [.text text] } }
  | .enter | .startDocument | .endDocument | .release => o

end Outline

/-- The tree that the calls between the start and the end of a document describe. -/
def described (calls : List Call) : Option Tree :=
  match (calls.foldl Outline.take {}).trees.finished with
  | [root] => some root.joined
  | _ => none

end HiveDump.Markup
