import HiveDump.Markup.Parsing
import HiveDump.Proofs.Markup.Growing
import HiveDump.Proofs.Markup.Rendering
import HiveDump.Proofs.Text.Utf8

/-!
# Reading what was written

The text of tokens reads back as these tokens, but for texts that stand side by side: nothing
separates them, so they are read as one, and a text without characters is not there
(`Markup.joinTexts`). No line in a document ends with anything but a line feed, and no blank but a
space stands in a value, since references stand in their place; a parser has nothing to put right.

Results:
* `readAttribute?_render`, `readTag?_startTag`, `readTag?_endTag`: attributes and tags read back;
* **`readContent?_separate`**: tokens read back if no two texts stand side by side;
* `joinTexts_tokens`: what is read of the tokens of a tree are those of the tree `Tree.joined`;
* **`parse?_document`**: the document of a well formed element parses to that tree.
-/

namespace HiveDump.Markup

/-! ## Pieces of a text -/

section Cut

variable {stop : Char → Bool} {s : List Char}

theorem cut_append (hs : ∀ c ∈ s, stop c = false) {c : Char} (hc : stop c = true)
    (rest : List Char) : cut stop (s ++ c :: rest) = (s, c :: rest) := by
  have hpass : ∀ d ∈ s, (fun e => !stop e) d = true := fun d hd => by simp [hs d hd]
  rw [cut, List.takeWhile_append_of_pos hpass, List.dropWhile_append_of_pos hpass,
    List.takeWhile_cons_of_neg (by simp [hc]), List.dropWhile_cons_of_neg (by simp [hc]),
    List.append_nil]

theorem cut_eq_self (hs : ∀ c ∈ s, stop c = false) : cut stop s = (s, []) := by
  have hpass : ∀ d ∈ s, (fun e => !stop e) d = true := fun d hd => by simp [hs d hd]
  have hcut : cut stop (s ++ []) = (s, []) := by
    rw [cut, List.takeWhile_append_of_pos hpass, List.dropWhile_append_of_pos hpass,
      List.takeWhile_nil, List.dropWhile_nil, List.append_nil]
  rwa [List.append_nil] at hcut

end Cut

/-- A name stands in front of a character that no name holds. -/
theorem ne_of_isName {name : String} (h : isName name = true) {c : Char} (hc : inName c = false) :
    ∀ d ∈ name.toList, (d == c) = false := fun _ hd =>
  beq_eq_false_iff_ne.mpr fun heq => notMem_of_isName h hc (heq ▸ hd)

/-! ## Values -/

theorem blank_escapeInValue (c : Char) : (escapeInValue c).map blank = escapeInValue c := by
  unfold escapeInValue
  split
  case h_8 _ _ _ _ hfeed htab hreturn =>
    rw [List.map_singleton, blank, if_neg]
    rintro (rfl | rfl | rfl)
    · exact htab rfl
    · exact hfeed rfl
    · exact hreturn rfl
  all_goals decide

theorem quote_notMem_escapeInValue (c : Char) : '"' ∉ escapeInValue c := by
  unfold escapeInValue
  split
  case h_8 hquote _ _ _ =>
    rw [List.mem_singleton]
    exact fun h => hquote h.symm
  all_goals decide

/-- A value reads back as it was given, with the blanks that were given. -/
theorem readValue?_escaped (value : String) :
    readValue? (value.toList.flatMap escapeInValue) = some value := by
  have hbracket : '<' ∉ value.toList.flatMap escapeInValue := by
    simp only [List.mem_flatMap, not_exists, not_and]
    exact fun c _ => lt_notMem_escapeInValue c
  have hblank : (value.toList.flatMap escapeInValue).map blank =
      value.toList.flatMap escapeInValue := by
    rw [List.map_flatMap]
    simp only [blank_escapeInValue]
  rw [readValue?, if_neg hbracket, hblank, unescape_escapeInValue, Option.map_some,
    String.ofList_toList]

/-! ## Tags -/

theorem render_attribute (a : Attribute) (rest : List Char) :
    a.render ++ rest = ' ' :: (a.name.toList ++ '=' :: '"' ::
      (a.value.toList.flatMap escapeInValue ++ '"' :: rest)) := by
  simp [Attribute.render]

theorem readAttribute?_render {a : Attribute} (h : isName a.name = true) (rest : List Char) :
    readAttribute? (a.name.toList ++ '=' :: '"' ::
      (a.value.toList.flatMap escapeInValue ++ '"' :: rest)) = some (a, rest) := by
  have hquotes : ∀ c ∈ a.value.toList.flatMap escapeInValue, (c == '"') = false := by
    intro c hc
    obtain ⟨d, -, hd⟩ := List.mem_flatMap.mp hc
    exact beq_eq_false_iff_ne.mpr fun heq => quote_notMem_escapeInValue d (heq ▸ hd)
  unfold readAttribute?
  rw [cut_append (ne_of_isName h (by decide)) (by decide)]
  simp only [cut_append (c := '"') hquotes (by decide), readValue?_escaped, Option.map_some,
    String.ofList_toList]

theorem readAttributes?_render {attributes : List Attribute}
    (h : ∀ a ∈ attributes, isName a.name = true) (rest : List Char) :
    readAttributes? (attributes.flatMap Attribute.render ++ '>' :: rest) =
      some (attributes, rest) := by
  induction attributes with
  | nil => rw [List.flatMap_nil, List.nil_append, readAttributes?]
  | cons a attributes ih =>
    obtain ⟨ha, hattributes⟩ := List.forall_mem_cons.mp h
    rw [List.flatMap_cons, List.append_assoc, render_attribute, readAttributes?]
    split
    · next hread => rw [readAttribute?_render ha] at hread; cases hread
    · next b behind hread =>
      rw [readAttribute?_render ha] at hread
      obtain ⟨rfl, rfl⟩ := Prod.mk.inj (Option.some.inj hread)
      rw [ih hattributes, Option.map_some]

theorem readTag?_startTag {name : String} {attributes : List Attribute}
    (h : (Token.startTag name attributes).WellFormed) (rest : List Char) :
    readTag? (name.toList ++ (attributes.flatMap Attribute.render ++ '>' :: rest)) =
      some (.startTag name attributes, rest) := by
  obtain ⟨hname, hattributes, -⟩ := h
  have hread := readAttributes?_render (fun a ha => (hattributes a ha).1) rest
  have hstop : ∀ c ∈ name.toList, (c == ' ' || c == '>') = false := fun c hc => by
    rw [ne_of_isName hname (by decide) c hc, ne_of_isName hname (by decide) c hc]
    rfl
  have hcut : cut (fun c => c == ' ' || c == '>')
      (name.toList ++ (attributes.flatMap Attribute.render ++ '>' :: rest)) =
        (name.toList, attributes.flatMap Attribute.render ++ '>' :: rest) := by
    cases attributes with
    | nil => exact cut_append hstop (by decide) _
    | cons a attributes =>
      rw [List.flatMap_cons, List.append_assoc, render_attribute]
      exact cut_append hstop (by decide) _
  obtain ⟨c, cs, hc, hstarts⟩ := startsName_head hname
  unfold readTag?
  split
  · next hslash =>
    rw [hc, List.cons_append] at hslash
    rw [(List.cons_eq_cons.mp hslash).1] at hstarts
    exact absurd hstarts (by decide)
  · rw [hcut]
    dsimp only
    rw [hread, Option.map_some, String.ofList_toList]

theorem readTag?_endTag {name : String} (h : isName name = true) (rest : List Char) :
    readTag? ('/' :: (name.toList ++ '>' :: rest)) = some (.endTag name, rest) := by
  have hcut : cut (· == '>') (name.toList ++ '>' :: rest) = (name.toList, '>' :: rest) :=
    cut_append (ne_of_isName h (by decide)) (by decide) rest
  simp only [readTag?, hcut, String.ofList_toList]

/-! ## Text beside text -/

/-- Tokens in front of which a text stands. -/
def joinText (content : String) : List Token → List Token
  | .text more :: ts => .text (content ++ more) :: ts
  | ts => if content.isEmpty then ts else .text content :: ts

/-- Tokens with no two texts side by side, and none that is empty. -/
def joinTexts : List Token → List Token
  | [] => []
  | .text content :: ts => joinText content (joinTexts ts)
  | t :: ts => t :: joinTexts ts

/-- Whether no two texts stand side by side, and none is empty. -/
def Separate : List Token → Prop
  | [] => True
  | .text content :: ts => content ≠ "" ∧ (∀ more, ts.head? ≠ some (.text more)) ∧ Separate ts
  | _ :: ts => Separate ts

theorem joinText_of_head {content : String} {ts : List Token}
    (h : ∀ more, ts.head? ≠ some (.text more)) :
    joinText content ts = if content.isEmpty then ts else .text content :: ts := by
  unfold joinText
  split
  · next more _ => exact absurd rfl (h more)
  · rfl

theorem render_joinText (content : String) (ts : List Token) :
    render (joinText content ts) = render (.text content :: ts) := by
  unfold joinText
  split
  · next more us =>
    rw [render_cons, render_cons, render_cons, ← List.append_assoc]
    change (content ++ more).toList.flatMap escapeInText ++ render us =
      content.toList.flatMap escapeInText ++ more.toList.flatMap escapeInText ++ render us
    rw [String.toList_append, List.flatMap_append]
  · split
    · next hempty =>
      rw [String.isEmpty_iff.mp hempty]
      rfl
    · rfl

theorem separate_joinText (content : String) {ts : List Token} (h : Separate ts) :
    Separate (joinText content ts) := by
  unfold joinText
  split
  · obtain ⟨hmore, hhead, hts⟩ := h
    refine ⟨fun hempty => hmore ?_, hhead, hts⟩
    exact (String.append_eq_empty_iff.mp hempty).2
  · next hhead =>
    split
    · exact h
    · next hempty =>
      refine ⟨fun heq => hempty (String.isEmpty_iff.mpr heq), fun more hmore => ?_, h⟩
      obtain ⟨us, rfl⟩ := List.head?_eq_some_iff.mp hmore
      exact hhead more us rfl

theorem wellFormed_joinText {content : String} {ts : List Token}
    (h : ∀ t ∈ Token.text content :: ts, t.WellFormed) :
    ∀ t ∈ joinText content ts, t.WellFormed := by
  obtain ⟨hcontent, hts⟩ := List.forall_mem_cons.mp h
  unfold joinText
  split
  · obtain ⟨hmore, hbehind⟩ := List.forall_mem_cons.mp hts
    refine List.forall_mem_cons.mpr ⟨?_, hbehind⟩
    change legal _ = true
    rw [legal, String.toList_append, List.all_append, Bool.and_eq_true]
    exact ⟨hcontent, hmore⟩
  · split
    · exact hts
    · exact h

/-- Tokens with their texts joined have the same text, are well formed if they were, and are told
apart by it. -/
theorem joinTexts_spec (ts : List Token) :
    render (joinTexts ts) = render ts ∧ Separate (joinTexts ts) ∧
      ((∀ t ∈ ts, t.WellFormed) → ∀ t ∈ joinTexts ts, t.WellFormed) := by
  induction ts with
  | nil => exact ⟨rfl, trivial, fun _ => nofun⟩
  | cons t ts ih =>
    obtain ⟨hrender, hseparate, hwell⟩ := ih
    cases t with
    | text content =>
      refine ⟨?_, separate_joinText content hseparate, fun h => ?_⟩
      · rw [joinTexts, render_joinText, render_cons, hrender, render_cons]
      · obtain ⟨ht, hts⟩ := List.forall_mem_cons.mp h
        exact wellFormed_joinText (List.forall_mem_cons.mpr ⟨ht, hwell hts⟩)
    | declaration label =>
      refine ⟨?_, hseparate, fun h => ?_⟩
      · rw [joinTexts, render_cons, hrender, render_cons]
        nofun
      · obtain ⟨ht, hts⟩ := List.forall_mem_cons.mp h
        exact ht.elim
    | startTag name attributes =>
      refine ⟨?_, hseparate, fun h => ?_⟩
      · rw [joinTexts, render_cons, hrender, render_cons]
        nofun
      · obtain ⟨ht, hts⟩ := List.forall_mem_cons.mp h
        exact List.forall_mem_cons.mpr ⟨ht, hwell hts⟩
    | endTag name =>
      refine ⟨?_, hseparate, fun h => ?_⟩
      · rw [joinTexts, render_cons, hrender, render_cons]
        nofun
      · obtain ⟨ht, hts⟩ := List.forall_mem_cons.mp h
        exact List.forall_mem_cons.mpr ⟨ht, hwell hts⟩

/-! ## Content -/

/-- The first character of a text that is not empty is not that of a tag. -/
theorem exists_escaped {content : String} (h : content ≠ "") :
    ∃ c cs, content.toList.flatMap escapeInText = c :: cs ∧ c ≠ '<' := by
  have hne : content.toList ≠ [] := fun hnil => h (String.toList_eq_nil_iff.mp hnil)
  obtain ⟨d, ds, hd⟩ := List.exists_cons_of_ne_nil hne
  have hescape : escapeInText d ≠ [] := by
    unfold escapeInText
    split <;> simp
  obtain ⟨c, cs, hc⟩ := List.exists_cons_of_ne_nil hescape
  refine ⟨c, cs ++ ds.flatMap escapeInText, by rw [hd, List.flatMap_cons, hc, List.cons_append],
    fun heq => lt_notMem_escapeInText d ?_⟩
  rw [hc, heq]
  exact List.mem_cons_self

/-- Behind a text there is a tag or nothing. -/
theorem cut_content {ts : List Token} (hts : ∀ t ∈ ts, t.WellFormed)
    (hhead : ∀ more, ts.head? ≠ some (.text more)) (content : String) :
    cut (· == '<') (content.toList.flatMap escapeInText ++ render ts) =
      (content.toList.flatMap escapeInText, render ts) := by
  have hpass : ∀ c ∈ content.toList.flatMap escapeInText, (c == '<') = false := by
    intro c hc
    obtain ⟨d, -, hd⟩ := List.mem_flatMap.mp hc
    exact beq_eq_false_iff_ne.mpr fun heq => lt_notMem_escapeInText d (heq ▸ hd)
  cases ts with
  | nil =>
    change cut _ (_ ++ []) = (_, [])
    rw [List.append_nil, cut_eq_self hpass]
  | cons t ts =>
    rw [render_cons]
    cases t with
    | declaration label => exact ((List.forall_mem_cons.mp hts).1).elim
    | text more => exact absurd rfl (hhead more)
    | startTag name attributes => exact cut_append hpass (by decide) _
    | endTag name => exact cut_append hpass (by decide) _

/-- **Tokens read back** if no two texts stand side by side and none is empty. -/
theorem readContent?_separate {ts : List Token} (hts : ∀ t ∈ ts, t.WellFormed)
    (hseparate : Separate ts) {budget : Nat} (hbudget : (render ts).length ≤ budget) :
    readContent? budget (render ts) = some ts := by
  induction ts generalizing budget with
  | nil =>
    change readContent? budget [] = some []
    unfold readContent?
    rfl
  | cons t ts ih =>
    obtain ⟨ht, hbehind⟩ := List.forall_mem_cons.mp hts
    rw [render_cons] at hbudget ⊢
    rw [List.length_append] at hbudget
    cases t with
    | declaration label => exact ht.elim
    | startTag name attributes =>
      obtain _ | budget := budget
      · exact absurd hbudget (by simp [render_startTag])
      have hlength : (render ts).length ≤ budget := by
        simp only [render_startTag, List.length_cons] at hbudget
        omega
      have hread := readTag?_startTag ht (render ts)
      rw [render_startTag, List.cons_append, List.append_assoc, List.append_assoc,
        List.singleton_append]
      simp only [readContent?, hread, ih hbehind hseparate hlength, Option.map_some]
    | endTag name =>
      obtain _ | budget := budget
      · exact absurd hbudget (by simp [render_endTag])
      have hlength : (render ts).length ≤ budget := by
        simp only [render_endTag, List.length_cons] at hbudget
        omega
      have hread := readTag?_endTag ht (render ts)
      rw [render_endTag, List.cons_append, List.cons_append, List.append_assoc,
        List.singleton_append]
      simp only [readContent?, hread, ih hbehind hseparate hlength, Option.map_some]
    | text content =>
      obtain ⟨hne, hhead, hapart⟩ := hseparate
      obtain ⟨c, cs, hc, hbracket⟩ := exists_escaped hne
      have hrender : (Token.text content).render = c :: cs := hc
      obtain _ | budget := budget
      · exact absurd hbudget (by simp [hrender])
      have hlength : (render ts).length ≤ budget := by
        rw [hrender, List.length_cons] at hbudget
        omega
      have hcut := cut_content hbehind hhead content
      rw [hc, List.cons_append] at hcut
      have hescaped : unescape (c :: cs) = some content.toList := hc ▸ unescape_escapeInText _
      rw [hrender, List.cons_append, readContent?]
      · simp only [hcut, hescaped, ih hbehind hapart hlength, Option.map_some,
          String.ofList_toList]
      · nofun
      · exact fun _ heq => hbracket (List.cons_eq_cons.mp heq).1

/-! ## Documents -/

theorem lineEnds_eq_self {cs : List Char} (h : '\r' ∉ cs) : lineEnds cs = cs := by
  induction cs with
  | nil => rfl
  | cons c cs ih =>
    rw [List.mem_cons, not_or] at h
    rw [lineEnds, ih h.2, if_neg fun heq => h.1 heq.symm]
    exact fun _ heq => absurd heq.symm h.1

theorem return_notMem_escapeInValue (c : Char) : '\r' ∉ escapeInValue c := by
  unfold escapeInValue
  split
  case h_8 hreturn =>
    rw [List.mem_singleton]
    exact fun h => hreturn h.symm
  all_goals decide

theorem return_notMem_escapeInText (c : Char) : '\r' ∉ escapeInText c := by
  unfold escapeInText
  split
  case h_5 hreturn =>
    rw [List.mem_singleton]
    exact fun h => hreturn h.symm
  all_goals decide

/-- No line of a document ends with a carriage return. -/
theorem return_notMem_render {t : Token} (h : MayStand t) : '\r' ∉ t.render := by
  rcases h with rfl | h
  · decide
  cases t with
  | declaration label => exact h.elim
  | text content =>
    intro hm
    obtain ⟨c, -, hc⟩ := List.mem_flatMap.mp hm
    exact return_notMem_escapeInText c hc
  | startTag name attributes =>
    have hname : '\r' ∉ name.toList := notMem_of_isName h.1 (by decide)
    have hattributes : '\r' ∉ attributes.flatMap Attribute.render := by
      intro hm
      obtain ⟨a, ha, hc⟩ := List.mem_flatMap.mp hm
      have hattribute : '\r' ∉ a.name.toList := notMem_of_isName (h.2.1 a ha).1 (by decide)
      have hvalue : '\r' ∉ a.value.toList.flatMap escapeInValue := by
        simp only [List.mem_flatMap, not_exists, not_and]
        exact fun c _ => return_notMem_escapeInValue c
      simp [Attribute.render, hattribute, hvalue] at hc
    rw [render_startTag]
    simp [hname, hattributes]
  | endTag name =>
    have hname : '\r' ∉ name.toList := notMem_of_isName h (by decide)
    rw [render_endTag]
    simp [hname]

theorem render_declaration (label : String) :
    (Token.declaration label).render = declarationStart ++ label.toList ++ "'?>\n".toList := rfl

/-- The text of a document is its declaration and its content. -/
theorem render_document (ts : List Token) :
    render (.declaration "utf-8" :: ts) =
      declarationStart ++ ("utf-8".toList ++ '\'' :: '?' :: '>' :: '\n' :: render ts) := by
  have hend : "'?>\n".toList = ['\'', '?', '>', '\n'] := by decide
  rw [render_cons, render_declaration, hend]
  simp only [List.append_assoc, List.cons_append, List.nil_append]

theorem cut_label (rest : List Char) :
    cut (· == '\'') ("utf-8".toList ++ '\'' :: rest) = ("utf-8".toList, '\'' :: rest) :=
  cut_append (by simp) (by decide) _

/-- **The text of a document reads back** if its texts stand apart. -/
theorem read?_separate {ts : List Token} (hts : ∀ t ∈ ts, t.WellFormed) (hseparate : Separate ts) :
    read? (render (.declaration "utf-8" :: ts)) = some (.declaration "utf-8" :: ts) := by
  have hcontent := readContent?_separate hts hseparate (Nat.le_refl _)
  rw [render_document, read?, if_pos (List.isPrefixOf_iff_prefix.mpr (List.prefix_append _ _)),
    List.drop_left, cut_label]
  simp only [hcontent, Option.map_some, String.ofList_toList]

/-! ## Trees -/

namespace Tree

theorem joinText_forestTokens (content : String) (ts : List Tree) {rest : List Token}
    (hrest : ∀ more, rest.head? ≠ some (.text more)) :
    joinText content (forestTokens ts ++ rest) = forestTokens (join content ts) ++ rest := by
  cases ts with
  | nil =>
    rw [forestTokens, List.nil_append, joinText_of_head hrest, join]
    · split <;> rfl
    · nofun
  | cons t ts =>
    cases t with
    | text more => rfl
    | element name attributes inside =>
      rw [joinText_of_head (by simp [forestTokens, tokens]), join]
      · split <;> rfl
      · nofun

mutual

/-- What is read of the tokens of an element are those of its tree with the texts joined. -/
theorem joinTexts_tokens : (t : Tree) → t.IsElement → (rest : List Token) →
    joinTexts (t.tokens ++ rest) = t.joined.tokens ++ joinTexts rest
  | element name attributes inside, _, rest => by
    have hinside : joinTexts (forestTokens inside ++ .endTag name :: rest) =
        forestTokens (joinedForest inside) ++ joinTexts (.endTag name :: rest) :=
      joinTexts_forestTokens inside nofun
    rw [tokens, List.cons_append, List.append_assoc, List.singleton_append, joinTexts, hinside,
      joined, tokens, joinTexts]
    · simp
    · nofun
    · nofun

theorem joinTexts_forestTokens : (ts : List Tree) → {rest : List Token} →
    (∀ more, (joinTexts rest).head? ≠ some (.text more)) →
    joinTexts (forestTokens ts ++ rest) = forestTokens (joinedForest ts) ++ joinTexts rest
  | [], rest, _ => rfl
  | .text content :: ts, rest, hrest => by
    rw [forestTokens, tokens, List.append_assoc, List.singleton_append, joinTexts,
      joinTexts_forestTokens ts hrest, joinText_forestTokens content _ hrest, joinedForest]
  | .element name attributes inside :: ts, rest, hrest => by
    rw [forestTokens, List.append_assoc, joinTexts_tokens (element name attributes inside) trivial,
      joinTexts_forestTokens ts hrest, joinedForest, forestTokens, List.append_assoc]

end

end Tree

/-- No line of a document ends with anything but a line feed. -/
theorem lineEnds_render {ts : List Token} (hts : ∀ t ∈ ts, MayStand t) :
    lineEnds (render ts) = render ts := by
  refine lineEnds_eq_self fun hm => ?_
  obtain ⟨t, ht, hc⟩ := List.mem_flatMap.mp hm
  exact return_notMem_render (hts t ht) hc

/-- **The document of a well formed element parses** to the element with its texts joined. -/
theorem parse?_document {root : Tree} (hroot : root.IsElement)
    (hwell : ∀ t ∈ root.tokens, t.WellFormed) :
    parse? (encode .utf8 root.document) = some root.joined := by
  obtain ⟨hrender, hseparate, hjoined⟩ := joinTexts_spec root.tokens
  have hjoin := Tree.joinTexts_tokens root hroot []
  rw [List.append_nil, joinTexts, List.append_nil] at hjoin
  rw [hjoin] at hrender hseparate hjoined
  have htext : render root.document = render (.declaration "utf-8" :: root.joined.tokens) := by
    rw [Tree.document, render_cons, render_cons, hrender]
  have hmay : ∀ t ∈ Token.declaration "utf-8" :: root.joined.tokens, MayStand t :=
    List.forall_mem_cons.mpr ⟨.inl rfl, fun t ht => .inr (hjoined hwell t ht)⟩
  have hlabel : Charset.ofLabel? "utf-8" = some .utf8 := by decide +kernel
  have htree : Tree.ofTokens? (.declaration "utf-8" :: root.joined.tokens) = some root.joined := by
    cases root with
    | text content => exact hroot.elim
    | element name attributes inside => exact Tree.ofTokens?_tokens _ _ _ _
  rw [parse?, encode_utf8, htext, Utf8.decode?_encodeChars, Option.bind_eq_bind, Option.bind_some,
    lineEnds_render hmay, read?_separate (hjoined hwell) hseparate, Option.bind_eq_bind,
    Option.bind_some]
  dsimp only
  rw [if_pos ⟨hlabel, hjoined hwell⟩, htree]

end HiveDump.Markup
