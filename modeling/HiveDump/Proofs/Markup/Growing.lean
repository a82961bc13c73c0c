import HiveDump.Markup.Document

/-!
# Tokens of trees that are being written

Trees that are not finished have tokens too: those of the elements that are open, each behind the
trees in front of it, and those of the trees at the innermost one. Closing every open element makes
a finished tree of them.

Results:
* `tokens_add`, `tokens_opened`, `tokens_closed`: what a finished tree, a start tag and an end tag
  add;
* **`tokens_closing`**: with an end tag for every open element there is one finished element.
-/

namespace HiveDump.Markup.Tree

theorem forestTokens_append (ts us : List Tree) :
    forestTokens (ts ++ us) = forestTokens ts ++ forestTokens us := by
  induction ts with
  | nil => rfl
  | cons t ts ih => rw [List.cons_append, forestTokens, ih, forestTokens, List.append_assoc]

theorem forestTokens_singleton (t : Tree) : forestTokens [t] = t.tokens := by
  rw [forestTokens, forestTokens, List.append_nil]

theorem mem_forestTokens {t : Tree} {ts : List Tree} {token : Token} (ht : t ∈ ts)
    (h : token ∈ t.tokens) : token ∈ forestTokens ts := by
  obtain ⟨before, after, rfl⟩ := List.append_of_mem ht
  rw [forestTokens_append, forestTokens]
  exact List.mem_append_right _ (List.mem_append_left _ h)

theorem mem_tokens_of_inside {name : String} {attributes : List Attribute} {inside : List Tree}
    {token : Token} (h : token ∈ forestTokens inside) :
    token ∈ (element name attributes inside).tokens := by
  rw [tokens]
  exact List.mem_cons_of_mem _ (List.mem_append_left _ h)

namespace Growing

/-- The tokens of open elements, with the trees in front of them. -/
def outerTokens : List (String × List Attribute × List Tree) → List Token
  | [] => []
  | (name, attributes, before) :: outer =>
    outerTokens outer ++ forestTokens before ++ [.startTag name attributes]

/-- The tokens of trees that are being written. -/
def tokens (g : Growing) : List Token :=
  outerTokens g.outer ++ forestTokens g.here

/-- With further trees at the innermost open element. -/
def add (g : Growing) (ts : List Tree) : Growing :=
  ⟨g.here ++ ts, g.outer⟩

/-- With a new open element. -/
def opened (g : Growing) (name : String) (attributes : List Attribute) : Growing :=
  ⟨[], (name, attributes, g.here) :: g.outer⟩

variable {g : Growing} {name : String} {attributes : List Attribute} {ts us : List Tree}

@[simp] theorem add_nil : g.add [] = g := by
  rw [add, List.append_nil]

theorem add_add : (g.add ts).add us = g.add (ts ++ us) := by
  rw [add, add, add, List.append_assoc]

@[simp] theorem outer_add : (g.add ts).outer = g.outer := rfl

theorem tokens_add : (g.add ts).tokens = g.tokens ++ forestTokens ts := by
  rw [tokens, tokens, add, forestTokens_append, List.append_assoc]

theorem tokens_opened :
    (g.opened name attributes).tokens = g.tokens ++ [.startTag name attributes] := by
  simp only [tokens, opened, outerTokens, forestTokens, List.append_nil]

/-- An end tag makes an element of what stands behind its start tag. -/
theorem tokens_closed :
    (g.add [.element name attributes ts]).tokens =
      ((g.opened name attributes).add ts).tokens ++ [.endTag name] := by
  rw [tokens_add, tokens_add, tokens_opened, forestTokens_singleton, Tree.tokens]
  simp only [List.append_assoc, List.cons_append, List.nil_append]

/-- The end tags that are still to come, innermost first. -/
def closingTags (g : Growing) : List Token :=
  g.outer.map fun o => .endTag o.1

/-- Whether one element holds all the others. -/
def Rooted (g : Growing) (name : String) (attributes : List Attribute) : Prop :=
  ∃ inner, g.outer = inner ++ [(name, attributes, [])]

theorem Rooted.add (h : g.Rooted name attributes) (ts : List Tree) :
    (g.add ts).Rooted name attributes :=
  h

theorem Rooted.opened (h : g.Rooted name attributes) (inner : String)
    (innerAttributes : List Attribute) :
    (g.opened inner innerAttributes).Rooted name attributes := by
  obtain ⟨outer, h⟩ := h
  exact ⟨(inner, innerAttributes, g.here) :: outer, by rw [Growing.opened, h]; rfl⟩

/-- Inside the outermost element, what is open was opened inside it. -/
theorem Rooted.exists_opened (h : g.Rooted name attributes) (hlength : 2 ≤ g.outer.length) :
    ∃ (around : Growing) (inner : String) (innerAttributes : List Attribute) (ts : List Tree),
      g = (around.opened inner innerAttributes).add ts ∧ around.Rooted name attributes ∧
      around.outer.length + 1 = g.outer.length := by
  obtain ⟨here, outer⟩ := g
  obtain ⟨between, houter⟩ := h
  obtain rfl : outer = between ++ [(name, attributes, [])] := houter
  cases between with
  | nil => exact absurd hlength (by simp)
  | cons o between =>
    obtain ⟨inner, innerAttributes, before⟩ := o
    exact ⟨⟨before, between ++ [(name, attributes, [])]⟩, inner, innerAttributes, here, rfl,
      ⟨between, rfl⟩, rfl⟩

theorem closing_inner (name : String) (attributes : List Attribute) :
    ∀ (inner : List (String × List Attribute × List Tree)) (here : List Tree), ∃ inside,
      tokens ⟨here, inner ++ [(name, attributes, [])]⟩ ++
        closingTags ⟨here, inner ++ [(name, attributes, [])]⟩ =
          (element name attributes inside).tokens
  | [], here => ⟨here, by simp [tokens, outerTokens, closingTags, forestTokens, Tree.tokens]⟩
  | (n, a, before) :: inner, here => by
    obtain ⟨inside, ih⟩ := closing_inner name attributes inner (before ++ [element n a here])
    refine ⟨inside, ?_⟩
    have hclosed : tokens (add ⟨before, inner ++ [(name, attributes, [])]⟩ [element n a here]) =
        tokens ⟨here, (n, a, before) :: inner ++ [(name, attributes, [])]⟩ ++ [.endTag n] :=
      tokens_closed
    rw [← ih]
    change _ = tokens (add ⟨before, _⟩ [element n a here]) ++ _
    rw [hclosed, List.append_assoc]
    rfl

/-- **With an end tag for every open element there is one finished element.** -/
theorem tokens_closing (h : g.Rooted name attributes) :
    ∃ inside, g.tokens ++ g.closingTags = (element name attributes inside).tokens := by
  obtain ⟨inner, h⟩ := h
  obtain ⟨inside, hclosing⟩ := closing_inner name attributes inner g.here
  rw [← h] at hclosing
  exact ⟨inside, hclosing⟩

theorem startTag_mem_outerTokens {o : String × List Attribute × List Tree} :
    ∀ {outer : List (String × List Attribute × List Tree)}, o ∈ outer →
      .startTag o.1 o.2.1 ∈ outerTokens outer
  | p :: outer, h => by
    rw [outerTokens]
    rcases List.mem_cons.mp h with rfl | h
    · exact List.mem_append_right _ (List.mem_singleton.mpr rfl)
    · exact List.mem_append_left _ (List.mem_append_left _ (startTag_mem_outerTokens h))

/-- Every element that is open has its start tag among the tokens. -/
theorem startTag_mem {o : String × List Attribute × List Tree} (h : o ∈ g.outer) :
    .startTag o.1 o.2.1 ∈ g.tokens :=
  List.mem_append_left _ (startTag_mem_outerTokens h)

end Growing

end HiveDump.Markup.Tree
