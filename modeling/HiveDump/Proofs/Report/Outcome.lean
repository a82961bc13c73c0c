import HiveDump.Memory.Script
import HiveDump.Proofs.Markup.Rendering
import HiveDump.Proofs.Report.Converted

/-!
# Documents of conversions that succeed and fail

The bytes that a conversion leaves behind tell whether it succeeded: a complete report is a well
formed document, and what a failed conversion leaves is none, since the end tag of its root is
missing.

Results:
* `Part.ascii`: a report is ASCII, so it can be read byte by byte;
* **`Part.not_infix`**, **`Part.not_isDocument`**, **`Part.isCutOff`**: what is left of a report that
  was cut off;
* **`succeeds_iff_isDocument`**: success and failure of a conversion, and the grammar of what it
  writes.
-/

namespace HiveDump.Conversion

open Markup Markup.Tree Report

/-! ## Reports are ASCII -/

theorem ascii_of_printable {s : String} (h : Printable s) : ∀ c ∈ s.toList, c.toNat < 0x80 :=
  fun c hc => Nat.lt_of_le_of_lt (h c hc).2 (by decide)

theorem ascii_escapeInValue {c : Char} (h : c.toNat < 0x80) :
    ∀ d ∈ escapeInValue c, d.toNat < 0x80 := by
  unfold escapeInValue
  split
  case h_8 => rwa [List.forall_mem_singleton]
  all_goals exact ascii_of_printable (by decide)

theorem ascii_escapeInText {c : Char} (h : c.toNat < 0x80) :
    ∀ d ∈ escapeInText c, d.toNat < 0x80 := by
  unfold escapeInText
  split
  case h_5 => rwa [List.forall_mem_singleton]
  all_goals exact ascii_of_printable (by decide)

theorem ascii_flatMap {escape : Char → List Char} {s : String}
    (hescape : ∀ c : Char, c.toNat < 0x80 → ∀ d ∈ escape c, d.toNat < 0x80) (h : Printable s) :
    ∀ d ∈ s.toList.flatMap escape, d.toNat < 0x80 := by
  intro d hd
  obtain ⟨c, hc, hd⟩ := List.mem_flatMap.mp hd
  exact hescape c (ascii_of_printable h c hc) d hd

theorem ascii_attribute {a : Attribute} (hname : Printable a.name) (hvalue : Printable a.value) :
    ∀ c ∈ a.render, c.toNat < 0x80 := by
  have hn := ascii_of_printable hname
  have hv := ascii_flatMap (fun _ => ascii_escapeInValue) hvalue
  rw [Attribute.render]
  simp only [List.forall_mem_append, List.forall_mem_cons, List.cons_append]
  exact ⟨by decide, ⟨⟨hn, by decide, by decide, hv⟩, by decide, by simp⟩⟩

/-- What a report writes is ASCII. -/
theorem ascii_token {t : Token} (h : PlainToken t) : ∀ c ∈ t.render, c.toNat < 0x80 := by
  cases t with
  | declaration label => exact h.elim
  | text content => exact ascii_flatMap (fun _ => ascii_escapeInText) h
  | startTag name attributes =>
    obtain ⟨hname, hattributes⟩ := h
    have hall : ∀ c ∈ attributes.flatMap Attribute.render, c.toNat < 0x80 := by
      intro c hc
      obtain ⟨a, ha, hc⟩ := List.mem_flatMap.mp hc
      exact ascii_attribute (hattributes a ha).1 (hattributes a ha).2 c hc
    rw [render_startTag]
    simp only [List.forall_mem_append, List.forall_mem_cons]
    exact ⟨by decide, ⟨ascii_of_printable hname, hall⟩, by decide, by simp⟩
  | endTag name =>
    rw [render_endTag]
    simp only [List.forall_mem_append, List.forall_mem_cons]
    exact ⟨by decide, by decide, ascii_of_printable h.1, by decide, by simp⟩

/-! ## What a failed conversion leaves -/

variable {g : Growing} {ts more : List Token}

theorem Part.mem (h : Part g ts more) {t : Token} (ht : t ∈ ts) :
    t = .declaration "utf-8" ∨ t ∈ g.tokens := by
  have hm : t ∈ ts ++ more := List.mem_append_left _ ht
  rw [h.tokens] at hm
  exact List.mem_cons.mp hm

theorem Part.ascii (h : Part g ts more) : ∀ c ∈ render ts, c.toNat < 0x80 := by
  intro c hc
  obtain ⟨t, ht, hc⟩ := List.mem_flatMap.mp hc
  rcases h.mem ht with rfl | ht
  · have hall : ((Token.declaration "utf-8").render.all fun c => c.toNat < 0x80) = true := by decide
    exact of_decide_eq_true (List.all_eq_true.mp hall c hc)
  · exact ascii_token (h.plain t ht) c hc

/-- **The end tag of the root cannot be read** in a part of a report. -/
theorem Part.not_infix (h : Part g ts more) : ¬(Token.endTag rootName).render <:+: render ts := by
  intro hinfix
  have hmem := endTag_mem_of_infix (by decide) (fun t ht => ?_) hinfix
  · rcases h.mem hmem with heq | hmem
    · cases heq
    · exact (h.plain _ hmem).2 rfl
  · exact (h.mem ht).imp_right (h.wellFormed t)

/-- The tokens of a report start with the tag of its root. -/
theorem tokens_eq_cons (h : g.Rooted rootName []) (hne : g.tokens ≠ []) :
    ∃ rest, g.tokens = .startTag rootName [] :: rest := by
  obtain ⟨inside, hclosing⟩ := Growing.tokens_closing h
  obtain ⟨t, rest, hg⟩ := List.exists_cons_of_ne_nil hne
  rw [hg, List.cons_append, Tree.tokens] at hclosing
  rw [hg, (List.cons_eq_cons.mp hclosing).1]
  exact ⟨rest, rfl⟩

/-- **A part of a report is no document.** -/
theorem Part.not_isDocument (h : Part g ts more) : ¬IsDocument (encode .utf8 ts) := by
  rintro ⟨root, helement, hwell, hbytes⟩
  rw [encode_utf8, encode_utf8] at hbytes
  have hrender := Utf8.encodeChars_injective hbytes
  cases root with
  | text content => exact helement
  | element name attributes inside =>
    have hinfix := endTag_infix name attributes inside
    rw [← hrender] at hinfix
    -- Behind the declaration there is the start tag of the root, or nothing.
    cases ts with
    | nil => exact absurd (List.append_eq_nil_iff.mp hrender.symm).1 (by decide)
    | cons t ts =>
      obtain ⟨rfl, htokens⟩ := List.cons_eq_cons.mp h.tokens
      rw [Tree.document, Tree.tokens, render_cons, render_cons] at hrender
      have hbehind := List.append_cancel_left hrender
      cases ts with
      | nil => exact render_ne_nil _ _ _ hbehind.symm
      | cons u ts =>
        have hne : g.tokens ≠ [] := htokens ▸ List.cons_ne_nil _ _
        obtain ⟨rest, hrest⟩ := tokens_eq_cons h.rooted hne
        rw [hrest] at htokens
        obtain ⟨rfl, -⟩ := List.cons_eq_cons.mp htokens
        have hname : isName name = true := (hwell _ List.mem_cons_self).1
        rw [← startTag_name (by decide) hname hbehind] at hinfix
        exact h.not_infix hinfix

/-- **A part of a report is a proper part of a document.** -/
theorem Part.isCutOff (h : Part g ts more) : IsCutOff (encode .utf8 ts) := by
  obtain ⟨inside, hclosing⟩ := Growing.tokens_closing h.rooted
  refine ⟨encode .utf8 (more ++ g.closingTags), ?_, .element rootName [] inside, trivial, ?_, ?_⟩
  · obtain ⟨o, outer, houter⟩ := List.exists_cons_of_ne_nil (outer_ne_nil_of_rooted h.rooted)
    have hmem : .endTag o.1 ∈ more ++ g.closingTags :=
      List.mem_append_right _ (List.mem_map.mpr ⟨o, houter ▸ List.mem_cons_self, rfl⟩)
    rw [encode_utf8]
    intro hnil
    have hrender := Utf8.encodeChars_injective (t := []) hnil
    exact absurd (List.flatMap_eq_nil_iff.mp hrender _ hmem) (List.cons_ne_nil _ _)
  · rw [← hclosing, List.forall_mem_append]
    refine ⟨h.wellFormed, fun t ht => ?_⟩
    obtain ⟨o, ho, rfl⟩ := List.mem_map.mp ht
    exact (h.wellFormed _ (Growing.startTag_mem ho)).1
  · rw [← encode_append rfl, ← List.append_assoc, h.tokens, Tree.document, ← hclosing]
    rfl

/-! ## Conversions -/

theorem Wrote.bytes {w : Writer} (h : Wrote ts w) : w.bytes?.getD [] = encode .utf8 ts := by
  have hencode : w.encode w.tokens.toList = encode .utf8 ts := by
    rw [Writer.encode, h.label, ofLabel?_utf8, h.tokens]
  unfold Writer.bytes?
  split
  next hempty =>
    rw [← h.tokens, Array.isEmpty_iff.mp hempty]
    rfl
  next => exact hencode

/-- What a conversion to UTF-8 leaves on a device that takes everything. -/
theorem convertWith_leaves {config : Config} (src : Source) (trace : List LogLine)
    (hvalid : config.complaints = .ok []) (hencoding : config.encoding = "utf-8") :
    ∃ w, Leaves (convertWith config .working (.ok src, trace)).result w ∧
      (convertWith config .working (.ok src, trace)).document = w.bytes? := by
  obtain ⟨policy, hpolicy⟩ := exists_policy hvalid
  have hblank : (opening config .working policy trace).output = blank := by
    rw [opening, hencoding]
    rfl
  rw [convertWith_eq hvalid hpolicy]
  exact ⟨_, convert_leaves src config.skipBad hblank, rfl⟩

/-- **A conversion to UTF-8 succeeds if and only if** what it has written is a complete well formed
document. That document follows the grammar of reports; what a failed conversion has written is a
proper part of a document, without the end tag of a hive. -/
theorem succeeds_iff_isDocument {config : Config} (src : Source) (trace : List LogLine)
    (hvalid : config.complaints = .ok []) (hencoding : config.encoding = "utf-8") :
    let outcome := convertWith config .working (.ok src, trace)
    let written := outcome.document.getD []
    ((∃ tally, outcome.result = .ok tally) ↔ IsDocument written) ∧
      (∀ tally, outcome.result = .ok tally → ∃ root, Writes root written ∧ IsHive root) ∧
      ∀ fault, outcome.result = .error fault →
        IsCutOff written ∧ ¬Utf8.encode "</hive>" <:+: written := by
  intro outcome written
  obtain ⟨w, hleaves, hdocument⟩ := convertWith_leaves src trace hvalid hencoding
  have hwritten : written = w.bytes?.getD [] := congrArg (·.getD []) hdocument
  rcases hleaves with hleaves | hleaves
  · obtain ⟨tally, root, hresult, hhive, hwell, hw⟩ := hleaves
    have hwrites : Writes root written := by
      refine ⟨?_, hwell, hwritten.trans hw.bytes⟩
      obtain ⟨time, node, rfl, -⟩ := hhive
      trivial
    refine ⟨⟨fun _ => ⟨root, hwrites⟩, fun _ => ⟨tally, hresult⟩⟩,
      fun _ _ => ⟨root, hwrites, hhive⟩, fun fault hfault => ?_⟩
    rw [hresult] at hfault
    cases hfault
  · obtain ⟨fault, hresult, g, ts, more, hpart, hw⟩ := hleaves
    rw [hw.bytes] at hwritten
    have hno : ∀ tally, outcome.result ≠ .ok tally := fun tally htally => by
      rw [hresult] at htally
      cases htally
    refine ⟨⟨fun ⟨tally, htally⟩ => absurd htally (hno tally), fun hdoc => ?_⟩,
      fun tally htally => absurd htally (hno tally), fun _ _ => ⟨?_, fun hinfix => ?_⟩⟩
    · exact absurd (hwritten ▸ hdoc) hpart.not_isDocument
    · exact hwritten ▸ hpart.isCutOff
    · rw [hwritten, encode_utf8] at hinfix
      exact hpart.not_infix (Utf8.infix_of_encodeChars hpart.ascii hinfix)

theorem complaints_standard : ({} : Config).complaints = .ok [] := by
  have hname : Label.names.contains (Label.normalize "utf-8") = true := by decide +kernel
  have hregistered : Label.isRegistered "utf-8" = true := by
    rw [Label.isRegistered, hname, Bool.or_true]
  have hvoid : Label.isVoid "utf-8" = false := by decide +kernel
  simp [Config.complaints, hregistered, hvoid]

/-- A list of texts whose cell is lost, and a key whose name is no ASCII. -/
def damagedScript : List MemoryHive.Step :=
  [.value 0 { key := some "texts", kind := .strings, data := .texts [some "one", none] },
    .lostCell 0, .key 0 { name := some "ü", timestamp := some 0 }]

/-- The hive of that script, which does not close if it is stuck. -/
def damaged (stuck : Bool) : MemoryHive :=
  { (MemoryHive.build (MemoryHive.create { name := some "root" } (some 0) true)
      damagedScript).hive with failsToClose := stuck }

theorem events_damaged (stuck : Bool) :
    Walk.events (damaged stuck).source = Walk.around (damaged stuck).source (damaged stuck).root
      (Walk.around (damaged stuck).source { handle := 0x10B0, name := some "ü" } []) := by
  have hevents := Walk.recursive_events (damaged stuck).source
  cases stuck <;>
    exact Walk.recursive_unique hevents ⟨_, _, .fresh rfl (by decide +kernel) .nil .nil, rfl⟩

theorem result_damaged (stuck : Bool) :
    (convertWith {} .working (.ok (damaged stuck).source, [])).result.toBool = !stuck := by
  unfold convertWith
  rw [complaints_standard]
  dsimp only
  unfold run convert body Walk.run
  rw [events_damaged]
  cases stuck <;> decide +kernel

/-- What the conversion of that hive has written. -/
def damagedBytes (stuck : Bool) : Bytes :=
  (convertWith {} .working (.ok (damaged stuck).source, [])).document.getD []

theorem succeeds_iff_isDocument_damaged :
    ({} : Config).complaints = .ok [] ∧ ({} : Config).encoding = "utf-8" ∧
      (∃ root, Writes root (damagedBytes false) ∧ IsHive root) ∧ IsCutOff (damagedBytes true) := by
  refine ⟨complaints_standard, rfl, ?_, ?_⟩
  · have hdamaged := succeeds_iff_isDocument (damaged false).source [] complaints_standard rfl
    have hresult := result_damaged false
    cases h : (convertWith {} .working (.ok (damaged false).source, [])).result with
    | ok tally => exact hdamaged.2.1 tally h
    | error fault =>
      rw [h] at hresult
      cases hresult
  · have hdamaged := succeeds_iff_isDocument (damaged true).source [] complaints_standard rfl
    have hresult := result_damaged true
    cases h : (convertWith {} .working (.ok (damaged true).source, [])).result with
    | ok tally =>
      rw [h] at hresult
      cases hresult
    | error fault => exact (hdamaged.2.2 fault h).1

end HiveDump.Conversion
