import HiveDump.Markup.Document

/-!
# The text of tags

In the text of a document `<` stands only where a tag starts, since names hold none and contents
and values escape it. So a tag that the text shows is one of the document's tokens, and a tag that
starts a document starts with its name.

Results:
* **`endTag_mem_of_infix`**: an end tag that can be read in the text was written as one;
* **`startTag_name`**: documents with the same text have roots with the same name.
-/

namespace HiveDump.Markup

/-! ## Names -/

theorem inName_of_isName {s : String} (h : isName s = true) : ∀ c ∈ s.toList, inName c = true := by
  unfold isName at h
  cases hs : s.toList with
  | nil => simp
  | cons c cs =>
    simp only [hs, Bool.and_eq_true, List.all_eq_true] at h
    rw [List.forall_mem_cons, inName, h.1]
    exact ⟨rfl, h.2⟩

theorem notMem_of_isName {s : String} (h : isName s = true) {c : Char} (hc : inName c = false) :
    c ∉ s.toList := by
  intro hm
  rw [inName_of_isName h c hm] at hc
  cases hc

/-- A name reaches up to the first character that no name holds. -/
theorem takeWhile_name {s : String} (h : isName s = true) {c : Char} (hc : inName c = false)
    (rest : List Char) : (s.toList ++ c :: rest).takeWhile inName = s.toList := by
  rw [List.takeWhile_append_of_pos (inName_of_isName h), List.takeWhile_cons_of_neg (by simp [hc]),
    List.append_nil]

/-- Where a name ends tells which name it is. -/
theorem name_inj {s t : String} (hs : isName s = true) (ht : isName t = true) {c d : Char}
    (hc : inName c = false) (hd : inName d = false) {rest rest' : List Char}
    (h : s.toList ++ c :: rest = t.toList ++ d :: rest') : s = t := by
  have htaken := congrArg (List.takeWhile inName) h
  rw [takeWhile_name hs hc, takeWhile_name ht hd] at htaken
  exact String.toList_inj.mp htaken

theorem startsName_head {s : String} (h : isName s = true) :
    ∃ c cs, s.toList = c :: cs ∧ startsName c = true := by
  unfold isName at h
  cases hs : s.toList with
  | nil => simp [hs] at h
  | cons c cs =>
    simp only [hs, Bool.and_eq_true] at h
    exact ⟨c, cs, rfl, h.1⟩

/-! ## Where a tag may start -/

theorem render_startTag (name : String) (attributes : List Attribute) :
    (Token.startTag name attributes).render =
      '<' :: (name.toList ++ attributes.flatMap Attribute.render ++ ['>']) := rfl

theorem render_endTag (name : String) :
    (Token.endTag name).render = '<' :: '/' :: (name.toList ++ ['>']) := rfl

theorem lt_notMem_escapeInValue (c : Char) : '<' ∉ escapeInValue c := by
  unfold escapeInValue
  split
  case h_8 hlt _ _ _ _ _ =>
    rw [List.mem_singleton]
    exact fun h => hlt h.symm
  all_goals decide

theorem lt_notMem_escapeInText (c : Char) : '<' ∉ escapeInText c := by
  unfold escapeInText
  split
  case h_5 hlt _ _ =>
    rw [List.mem_singleton]
    exact fun h => hlt h.symm
  all_goals decide

theorem lt_notMem_attribute {a : Attribute} (h : isName a.name = true) : '<' ∉ a.render := by
  have hname : '<' ∉ a.name.toList := notMem_of_isName h (by decide)
  have hvalue : '<' ∉ a.value.toList.flatMap escapeInValue := by
    simp only [List.mem_flatMap, not_exists, not_and]
    exact fun c _ => lt_notMem_escapeInValue c
  simp [Attribute.render, hname, hvalue]

/-- What may stand in a document. -/
def MayStand (t : Token) : Prop :=
  t = .declaration "utf-8" ∨ t.WellFormed

/-- `<` only starts a token. -/
theorem lt_notMem_tail {t : Token} (h : MayStand t) : '<' ∉ t.render.tail := by
  rcases h with rfl | h
  · decide
  cases t with
  | declaration label => exact h.elim
  | text content =>
    refine fun hm => ?_
    obtain ⟨c, -, hc⟩ := List.mem_flatMap.mp (List.mem_of_mem_tail hm)
    exact lt_notMem_escapeInText c hc
  | startTag name attributes =>
    have hname : '<' ∉ name.toList := notMem_of_isName h.1 (by decide)
    have hattributes : '<' ∉ attributes.flatMap Attribute.render := by
      simp only [List.mem_flatMap, not_exists, not_and]
      exact fun a ha => lt_notMem_attribute (h.2.1 a ha).1
    rw [render_startTag, List.tail_cons]
    simp [hname, hattributes]
  | endTag name =>
    have hname : '<' ∉ name.toList := notMem_of_isName h (by decide)
    rw [render_endTag, List.tail_cons]
    simp [hname]

/-- A character that only starts parts of a text stands where a part starts. -/
theorem exists_part {α β : Type} {f : α → List β} {c : β} :
    ∀ {ts : List α} {pre post : List β}, (∀ t ∈ ts, c ∉ (f t).tail) →
      ts.flatMap f = pre ++ c :: post →
        ∃ t ∈ ts, ∃ behind, f t ++ behind = c :: post ∧ f t ≠ []
  | [], pre, post, _, h => by simp at h
  | t :: ts, pre, post, hc, h => by
    obtain ⟨ht, hts⟩ := List.forall_mem_cons.mp hc
    have hrest : ∀ pre' : List β, ts.flatMap f = pre' ++ c :: post →
        ∃ u ∈ t :: ts, ∃ behind, f u ++ behind = c :: post ∧ f u ≠ [] := fun pre' hrest => by
      obtain ⟨u, hu, hpart⟩ := exists_part hts hrest
      exact ⟨u, List.mem_cons_of_mem _ hu, hpart⟩
    rw [List.flatMap_cons] at h
    rcases List.append_eq_append_iff.mp h with ⟨pre', -, hpre'⟩ | ⟨part, hpart, hpost⟩
    · exact hrest pre' hpre'
    · cases part with
      | nil => exact hrest [] hpost.symm
      | cons d part =>
        obtain ⟨rfl, hpost⟩ := List.cons_eq_cons.mp hpost
        cases pre with
        | nil =>
          refine ⟨t, List.mem_cons_self, ts.flatMap f, ?_, by simp [hpart]⟩
          rw [hpart, hpost, List.nil_append, List.cons_append]
        | cons p pre => exact absurd (by simp [hpart]) ht

/-! ## Tags in the text -/

/-- **An end tag that can be read in the text** was written as one. -/
theorem endTag_mem_of_infix {name : String} {ts : List Token} (hname : isName name = true)
    (hts : ∀ t ∈ ts, MayStand t) (h : (Token.endTag name).render <:+: render ts) :
    .endTag name ∈ ts := by
  obtain ⟨pre, post, h⟩ := h
  have hsplit : ts.flatMap Token.render = pre ++ '<' :: '/' :: (name.toList ++ '>' :: post) := by
    rw [← render, ← h, render_endTag]
    simp
  obtain ⟨t, ht, behind, hpart, hne⟩ := exists_part (fun t ht => lt_notMem_tail (hts t ht)) hsplit
  rcases hts t ht with rfl | hwell
  · have hsecond : some '?' = some '/' := congrArg (·.tail.head?) hpart
    exact absurd hsecond (by decide)
  cases t with
  | declaration label => exact hwell.elim
  | text content =>
    -- The text of a token of text has no such character even at its start.
    obtain ⟨c, cs, hc⟩ := List.exists_cons_of_ne_nil hne
    rw [hc, List.cons_append] at hpart
    have hmem : '<' ∈ (Token.text content).render := by
      rw [hc, (List.cons_eq_cons.mp hpart).1]
      exact List.mem_cons_self
    obtain ⟨d, -, hd⟩ := List.mem_flatMap.mp hmem
    exact absurd hd (lt_notMem_escapeInText d)
  | startTag other attributes =>
    obtain ⟨c, cs, hc, hstarts⟩ := startsName_head hwell.1
    rw [render_startTag, hc] at hpart
    rw [(List.cons_eq_cons.mp (List.cons_eq_cons.mp hpart).2).1] at hstarts
    exact absurd hstarts (by decide)
  | endTag other =>
    rw [render_endTag, List.cons_append, List.cons_append, List.append_assoc] at hpart
    have hnames := (List.cons_eq_cons.mp (List.cons_eq_cons.mp hpart).2).2
    rwa [name_inj hname hwell (by decide) (by decide) hnames.symm]

/-- What follows the name in a start tag. -/
theorem exists_behind_name (name : String) (attributes : List Attribute) :
    ∃ c rest, inName c = false ∧
      (Token.startTag name attributes).render = '<' :: (name.toList ++ c :: rest) := by
  rw [render_startTag, List.append_assoc]
  cases attributes with
  | nil => exact ⟨'>', [], by decide, rfl⟩
  | cons a attributes => exact ⟨' ', _, by decide, rfl⟩

/-- **Texts that start with the same start tag** start with the same name. -/
theorem startTag_name {name name' : String} {attributes attributes' : List Attribute}
    {ts ts' : List Token} (hname : isName name = true) (hname' : isName name' = true)
    (h : render (.startTag name attributes :: ts) = render (.startTag name' attributes' :: ts')) :
    name = name' := by
  obtain ⟨c, rest, hc, hrender⟩ := exists_behind_name name attributes
  obtain ⟨c', rest', hc', hrender'⟩ := exists_behind_name name' attributes'
  rw [render, render, List.flatMap_cons, List.flatMap_cons, hrender, hrender', List.cons_append,
    List.cons_append, List.append_assoc, List.append_assoc, List.cons_append,
    List.cons_append] at h
  exact name_inj hname hname' hc hc' (List.cons_eq_cons.mp h).2

/-! ## Whole documents -/

theorem render_cons (t : Token) (ts : List Token) : render (t :: ts) = t.render ++ render ts :=
  List.flatMap_cons

theorem render_ne_nil (name : String) (attributes : List Attribute) (ts : List Token) :
    render (.startTag name attributes :: ts) ≠ [] := by
  rw [render_cons, render_startTag, List.cons_append]
  exact List.cons_ne_nil _ _

/-- A document ends with the end tag of its root. -/
theorem endTag_infix (name : String) (attributes : List Attribute) (inside : List Tree) :
    (Token.endTag name).render <:+: render (Tree.element name attributes inside).document := by
  refine ⟨render (.declaration "utf-8" :: .startTag name attributes :: Tree.forestTokens inside), [], ?_⟩
  have hlast : render [.endTag name] = (Token.endTag name).render := List.append_nil _
  rw [List.append_nil, Tree.document, Tree.tokens, ← List.cons_append, ← List.cons_append,
    render_append, hlast]

end HiveDump.Markup
