import HiveDump.Markup.Token

/-!
# Reading markup

`Markup.read?` finds the tokens of a document's text. It reads what `Markup.render` writes: markup
without comments, an end tag for every element, attribute values in double quotes, and no
references but those of `escapeInValue` and `escapeInText`. Tabs and line feeds that stand in a
value as they are count as spaces.

Pieces of text that stand side by side are read as one.

Main statements: `unescape_escapeInText` and `unescape_escapeInValue`, escaped text and escaped
attribute values read back.
-/

namespace HiveDump.Markup

/-! ## References -/

/-- The text that references and other characters stand for. -/
def unescape : List Char → Option (List Char)
  | [] => some []
  | '&' :: 'a' :: 'm' :: 'p' :: ';' :: rest => (unescape rest).map ('&' :: ·)
  | '&' :: 'l' :: 't' :: ';' :: rest => (unescape rest).map ('<' :: ·)
  | '&' :: 'g' :: 't' :: ';' :: rest => (unescape rest).map ('>' :: ·)
  | '&' :: 'q' :: 'u' :: 'o' :: 't' :: ';' :: rest => (unescape rest).map ('"' :: ·)
  | '&' :: '#' :: '9' :: ';' :: rest => (unescape rest).map ('\t' :: ·)
  | '&' :: '#' :: '1' :: '0' :: ';' :: rest => (unescape rest).map ('\n' :: ·)
  | '&' :: '#' :: '1' :: '3' :: ';' :: rest => (unescape rest).map ('\r' :: ·)
  | c :: rest => if c = '&' then none else (unescape rest).map (c :: ·)

/-- A character in front of some text reads back as itself. -/
theorem unescape_cons {c : Char} (h : c ≠ '&') (rest : List Char) :
    unescape (c :: rest) = (unescape rest).map (c :: ·) := by
  rw [unescape] <;> simp_all

/-- An escaped character in front of some text reads back as the character. -/
theorem unescape_escapeInText_append (c : Char) (rest : List Char) :
    unescape (escapeInText c ++ rest) = (unescape rest).map (c :: ·) := by
  unfold escapeInText
  split
  · simp [unescape]
  · simp [unescape]
  · simp [unescape]
  · simp [unescape]
  · next h _ _ _ => simp [unescape_cons h]

/-- An escaped character of an attribute value reads back as the character. -/
theorem unescape_escapeInValue_append (c : Char) (rest : List Char) :
    unescape (escapeInValue c ++ rest) = (unescape rest).map (c :: ·) := by
  unfold escapeInValue
  split
  · simp [unescape]
  · simp [unescape]
  · simp [unescape]
  · simp [unescape]
  · simp [unescape]
  · simp [unescape]
  · simp [unescape]
  · next h _ _ _ _ _ _ => simp [unescape_cons h]

theorem unescape_escapeInText (s : List Char) : unescape (s.flatMap escapeInText) = some s := by
  induction s with
  | nil => rfl
  | cons c s ih => rw [List.flatMap_cons, unescape_escapeInText_append, ih, Option.map_some]

theorem unescape_escapeInValue (s : List Char) : unescape (s.flatMap escapeInValue) = some s := by
  induction s with
  | nil => rfl
  | cons c s ih => rw [List.flatMap_cons, unescape_escapeInValue_append, ih, Option.map_some]

/-! ## Tags -/

/-- What stands in front of the first character that satisfies `stop`, and what stands from there
on. -/
def cut (stop : Char → Bool) (cs : List Char) : List Char × List Char :=
  (cs.takeWhile fun c => !stop c, cs.dropWhile fun c => !stop c)

theorem length_cut_le (stop : Char → Bool) (cs : List Char) :
    (cut stop cs).2.length ≤ cs.length :=
  (List.dropWhile_suffix _).length_le

/-- A character as it counts in an attribute value: blanks of every kind are spaces there, unless
they are references. -/
def blank (c : Char) : Char :=
  if c = '\t' ∨ c = '\n' ∨ c = '\r' then ' ' else c

/-- The value that stands between the quotes of an attribute. -/
def readValue? (cs : List Char) : Option String :=
  if '<' ∈ cs then none else (unescape (cs.map blank)).map String.ofList

/-- An attribute behind its blank, and what stands behind it. -/
def readAttribute? (cs : List Char) : Option (Attribute × List Char) :=
  match cut (· == '=') cs with
  | (name, '=' :: '"' :: quoted) =>
    match cut (· == '"') quoted with
    | (value, '"' :: rest) => (readValue? value).map fun value => (⟨String.ofList name, value⟩, rest)
    | _ => none
  | _ => none

theorem length_lt_of_readAttribute? {cs rest : List Char} {a : Attribute}
    (h : readAttribute? cs = some (a, rest)) : rest.length < cs.length := by
  unfold readAttribute? at h
  split at h
  · next name quoted hcut =>
    split at h
    · next value behind hquote =>
      obtain ⟨_, _, hread⟩ := Option.map_eq_some_iff.mp h
      obtain ⟨-, rfl⟩ := Prod.mk.inj hread
      have h₁ := length_cut_le (· == '=') cs
      have h₂ := length_cut_le (· == '"') quoted
      rw [hcut] at h₁
      rw [hquote] at h₂
      simp only [List.length_cons] at h₁ h₂
      omega
    · simp at h
  · simp at h

/-- The attributes of a start tag up to its end, and what stands behind it. -/
def readAttributes? (cs : List Char) : Option (List Attribute × List Char) :=
  match cs with
  | '>' :: rest => some ([], rest)
  | ' ' :: cs =>
    match _h : readAttribute? cs with
    | none => none
    | some (a, rest) =>
      (readAttributes? rest).map fun (attributes, behind) => (a :: attributes, behind)
  | _ => none
termination_by cs.length
decreasing_by
  have := length_lt_of_readAttribute? _h
  simp only [List.length_cons]
  omega

/-- A tag behind its bracket, and what stands behind it. -/
def readTag? : List Char → Option (Token × List Char)
  | '/' :: cs =>
    match cut (· == '>') cs with
    | (name, '>' :: rest) => some (.endTag (String.ofList name), rest)
    | _ => none
  | cs =>
    let (name, rest) := cut (fun c => c == ' ' || c == '>') cs
    (readAttributes? rest).map fun (attributes, behind) =>
      (.startTag (String.ofList name) attributes, behind)

/-! ## Documents -/

/-- The tokens behind a declaration, as many as `budget` at most. -/
def readContent? : (budget : Nat) → List Char → Option (List Token)
  | _, [] => some []
  | 0, _ => none
  | budget + 1, '<' :: cs =>
    match readTag? cs with
    | none => none
    | some (token, rest) => (readContent? budget rest).map (token :: ·)
  | budget + 1, cs =>
    let (content, rest) := cut (· == '<') cs
    match unescape content with
    | none => none
    | some content => (readContent? budget rest).map (.text (String.ofList content) :: ·)

/-- The text in front of the label in a declaration. -/
def declarationStart : List Char := "<?xml version='1.0' encoding='".toList

/-- The tokens of a document, of which there are no more than its text has characters. -/
def read? (cs : List Char) : Option (List Token) :=
  if declarationStart.isPrefixOf cs then
    match cut (· == '\'') (cs.drop declarationStart.length) with
    | (label, '\'' :: '?' :: '>' :: '\n' :: rest) =>
      (readContent? rest.length rest).map (.declaration (String.ofList label) :: ·)
    | _ => none
  else none

end HiveDump.Markup
