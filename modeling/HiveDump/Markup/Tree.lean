import HiveDump.Markup.Token

/-!
# Document trees

What a document says, apart from how it is written: an element with its attributes and what stands
inside it, in order. `Tree.tokens` writes a tree as tokens, `Tree.ofTokens?` finds the tree that
tokens write, by keeping the elements that are still open.

Main statement: `ofTokens?_tokens`, the tree of an element's tokens is that element, behind any
declaration.
-/

namespace HiveDump.Markup

/-- An element of a document, or text in it. -/
inductive Tree
  | text (content : String)
  | element (name : String) (attributes : List Attribute) (inside : List Tree)

namespace Tree

mutual

/-- The tokens of a tree. -/
def tokens : Tree → List Token
  | text content => [.text content]
  | element name attributes inside =>
    .startTag name attributes :: (forestTokens inside ++ [.endTag name])

/-- The tokens of trees that stand side by side. -/
def forestTokens : List Tree → List Token
  | [] => []
  | t :: ts => t.tokens ++ forestTokens ts

end

/-- Trees that are being read: those side by side at the innermost open element, and for every open
element its tag with the trees in front of it, innermost first. -/
structure Growing where
  here : List Tree := []
  outer : List (String × List Attribute × List Tree) := []

namespace Growing

/-- Takes a token. -/
def take (g : Growing) : Token → Option Growing
  | .declaration _ => none
  | .text content => some { g with here := g.here ++ [text content] }
  | .startTag name attributes => some ⟨[], (name, attributes, g.here) :: g.outer⟩
  | .endTag name =>
    match g.outer with
    | [] => none
    | (opened, attributes, before) :: outer =>
      if opened = name then some ⟨before ++ [element name attributes g.here], outer⟩ else none

/-- Takes tokens in order. -/
def takeAll (g : Growing) : List Token → Option Growing
  | [] => some g
  | t :: ts => (g.take t).bind (·.takeAll ts)

theorem takeAll_append (g : Growing) (ts us : List Token) :
    g.takeAll (ts ++ us) = (g.takeAll ts).bind (·.takeAll us) := by
  induction ts generalizing g with
  | nil => rfl
  | cons t ts ih =>
    cases h : g.take t with
    | none => simp [takeAll, h]
    | some g' => simp [takeAll, h, ih]

mutual

theorem takeAll_tokens (g : Growing) : (t : Tree) →
    g.takeAll t.tokens = some { g with here := g.here ++ [t] }
  | .text content => rfl
  | .element name attributes inside => by
    have h := takeAll_forestTokens ⟨[], (name, attributes, g.here) :: g.outer⟩ inside
    simp only [tokens, takeAll, take, Option.bind_some, takeAll_append, h]
    simp

theorem takeAll_forestTokens (g : Growing) : (ts : List Tree) →
    g.takeAll (forestTokens ts) = some { g with here := g.here ++ ts }
  | [] => by simp [forestTokens, takeAll]
  | t :: ts => by
    rw [forestTokens, takeAll_append, takeAll_tokens g t, Option.bind_some,
      takeAll_forestTokens _ ts]
    simp

end

end Growing

/-- The root element of a document that is written by tokens, the first of which is the
declaration. -/
def ofTokens? : List Token → Option Tree
  | .declaration _ :: ts =>
    match Growing.takeAll {} ts with
    | some ⟨[element name attributes inside], []⟩ => some (element name attributes inside)
    | _ => none
  | _ => none

theorem ofTokens?_tokens (label name : String) (attributes : List Attribute)
    (inside : List Tree) :
    ofTokens? (.declaration label :: (element name attributes inside).tokens) =
      some (element name attributes inside) := by
  simp only [ofTokens?, Growing.takeAll_tokens]
  rfl

end Tree

end HiveDump.Markup
