import HiveDump.Proofs.Report.Pieces

/-!
# Nodes and values of a report

A node that is entered leaves its element open, with its time stamp and byte runs inside it. A
value is written as a whole. A part that fails leaves the document cut off somewhere inside the root
element (`Cut`), and the failures that are survived leave out a part as a whole.

Results:
* **`yields_nodeStart`**: the open element of a node, marked if it is the root's;
* **`yields_value`**: the element of a value.
-/

namespace HiveDump.Report

open Markup Markup.Tree

/-! ## Cut off documents -/

/-- Whether the document so far ends somewhere inside its root. -/
def Cut (w : Writer) : Prop :=
  ∃ g : Growing, g.Rooted rootName [] ∧ Page g w

variable {g : Growing} {name : String} {w : Writer}

theorem outer_ne_nil_of_rooted {attributes : List Attribute} (h : g.Rooted name attributes) :
    g.outer ≠ [] := by
  obtain ⟨inner, hg⟩ := h
  rw [hg]
  exact List.append_ne_nil_of_right_ne_nil _ (List.cons_ne_nil _ _)

theorem cut_of_page (hroot : g.Rooted rootName []) (h : Page g w) : Cut w :=
  ⟨g, hroot, h⟩

theorem cut_of_tagged {carries : List Attribute → Prop} (hroot : g.Rooted rootName [])
    (h : Tagged name carries g w) : Cut w := by
  obtain ⟨attributes, -, hpage⟩ := h.page
  exact ⟨_, hroot.opened name attributes, hpage⟩

/-! ## Nodes -/

/-- Whether a node's attributes say if it is the outermost one. -/
structure Marked (outermost : Bool) (attributes : List Attribute) : Prop where
  mark : outermost = true → rootMark ∈ attributes
  no : outermost = false → ∀ a ∈ attributes, a.name ≠ rootMark.name

/-- Whether a node is open behind the trees of a document, with nothing in it but what is said of
the node itself. -/
def Begun (outermost : Bool) (g : Growing) (w : Writer) : Prop :=
  ∃ attributes time runs, (Marked outermost attributes ∧ AtMostOne IsTime time ∧
    AtMostOne IsByteRuns runs) ∧ Page ((g.opened "node" attributes).add (time ++ runs)) w

/-- What is said of a node itself stands behind its start tag. -/
theorem yields_nodeContent {outermost : Bool} (hroot : g.Rooted rootName []) (src : Source)
    (n : Node) :
    Yields (Tagged "node" (Marked outermost) g)
      (do
        discard <| timeElement (← nodeTime src n)
        attempt "node_byte_runs" (.node n) (nodeByteRuns src n))
      (fun _ => Begun outermost g) Cut := by
  refine .of_tagged fun attributes hmarked => ?_
  have hopen := hroot.opened "node" attributes
  have htime : Yields (Page (g.opened "node" attributes)) (nodeTime src n)
      (fun _ => Page (g.opened "node" attributes)) Cut :=
    (yields_ask _ _).recover.imp (fun _ h => h) (fun _ _ h => h.elim And.right And.right)
      fun _ => cut_of_page hopen
  refine htime.bind fun time => ?_
  refine ((yields_timeElement (outer_opened_ne_nil _ _) _).discard fun _ _ h => h).bind fun _ => ?_
  refine .of_exists fun ts => .of_and fun hts => ?_
  have hinner : ((g.opened "node" attributes).add ts).outer ≠ [] := outer_opened_ne_nil _ _
  have hruns : Yields (Page ((g.opened "node" attributes).add ts))
      (attempt "node_byte_runs" (.node n) (nodeByteRuns src n))
      (fun _ => Adds ((g.opened "node" attributes).add ts) (AtMostOne IsByteRuns))
      (Page ((g.opened "node" attributes).add ts)) :=
    yields_attempt_adds (yields_nodeByteRuns hinner src n)
  refine hruns.imp (fun _ h => h) (fun _ w h => ?_) fun _ => cut_of_page hopen
  obtain ⟨runs, hruns, hpage⟩ := h
  rw [Growing.add_add] at hpage
  exact ⟨attributes, ts, runs, ⟨hmarked, hts, hruns⟩, hpage⟩

theorem marked_of_root {used : List String} {known attributes : List Attribute}
    (h : Carries used (rootMark :: known) attributes) : Marked true attributes :=
  ⟨fun _ => h.has _ List.mem_cons_self, fun hm => absurd hm (by decide)⟩

theorem marked_of_inner {used : List String} {known attributes : List Attribute}
    (h : Carries used known attributes) (hused : rootMark.name ∉ used) : Marked false attributes :=
  ⟨fun hm => absurd hm (by decide), fun _ a ha heq => hused (heq ▸ h.names a ha)⟩

/-- **A node is entered**: its element is open, and marked if it is the root's. -/
theorem yields_nodeStart (hroot : g.Rooted rootName []) (src : Source) (n : Node) :
    Yields (Page g) (nodeStart src n) (fun _ => Begun (src.isRoot n) g) Cut := by
  unfold nodeStart
  refine (yields_startElement (by decide)).bind fun _ => ?_
  have hname : Yields (Tagged "node" (· = []) g)
      (nameAttribute "node_start" (.node n) "name" n.name n.storedName)
      (fun _ => Tagged "node" (Carries ["name", "name_encoding"] []) g) Cut :=
    (yields_nameAttribute _ _ (by decide) (by decide) (by decide) (by simp) (by simp) _ _).imp
      (fun _ h => h.of_nil) (fun _ _ h => h) fun _ => cut_of_tagged hroot
  refine hname.bind fun _ => ?_
  split
  next hr =>
    rw [hr]
    have hmark : Yields (Tagged "node" (Carries ["name", "name_encoding"] []) g)
        (writeAttribute "root" "1") (fun _ => Tagged "node" (Marked true) g) Cut :=
      (yields_writeAttribute (by decide) (by decide) (by decide)).imp_post fun _ _ h =>
        h.mono fun _ => marked_of_root
    exact hmark.bind fun _ => yields_nodeContent hroot src n
  next hr =>
    rw [Bool.eq_false_iff.mpr hr]
    exact (yields_nodeContent hroot src n).imp_pre fun _ h =>
      h.mono fun _ hc => marked_of_inner hc (by decide)

/-! ## Types of values -/

theorem printable_typeOf {shape : Shape} {kind : Kind} {type : String}
    (h : typeOf shape kind = some type) : Printable type := by
  cases shape <;> cases kind <;>
    simp [typeOf, textType?, badTextType?, otherType?, unknownType] at h <;> subst h <;> decide

/-- The type that a step gives to a value is printable, and that of lists is theirs. -/
theorem plain_valueType {shape : Shape} {v : Value} {type : String}
    (h : valueType shape v = .ok type) :
    Printable type ∧ (shape = .strings → type = listMark.value) := by
  unfold valueType at h
  split at h
  next htype =>
    split at h
    · cases h
    cases h
    refine ⟨printable_typeOf htype, ?_⟩
    rintro rfl
    simp only [typeOf] at htype
    split at htype
    · exact (Option.some.inj htype).symm
    · cases htype
  next => cases h

/-! ## Values -/

/-- The names of the attributes in front of a value's payload. -/
def valueNames (encoding : Option AttributeEncoding) : List String :=
  "key" :: "key_encoding" :: "default" :: "type" :: (encoding.map fun _ => "value_encoding").toList

/-- Whether the start tag of a value takes the attributes of its payload. -/
def Announced (type : String) (encoding : Option AttributeEncoding) (g : Growing) (w : Writer) :
    Prop :=
  Tagged "value" (Carries (valueNames encoding) [⟨"type", type⟩]) g w

theorem yields_keyAttribute {used : List String} {known : List Attribute}
    (hroot : g.Rooted rootName []) (hkey : "key" ∉ used) (hencoding : "key_encoding" ∉ used)
    (hdefault : "default" ∉ used) (v : Value) :
    Yields (Tagged "value" (Carries used known) g)
      (if v.isDefault then writeAttribute "default" "1"
        else nameAttribute "start_value" (.value v) "key" v.key v.storedKey)
      (fun _ => Tagged "value" (Carries ("key" :: "key_encoding" :: "default" :: used) known) g)
      Cut := by
  split
  · exact (yields_writeAttribute (by decide) (by decide) hdefault).imp_post fun _ _ h =>
      h.forget.widen fun _ hm => List.mem_cons_of_mem _ (List.mem_cons_of_mem _ hm)
  · have hused : "key" :: "key_encoding" :: used ⊆ "key" :: "key_encoding" :: "default" :: used :=
      List.cons_subset_cons _ (List.cons_subset_cons _ fun _ hm => List.mem_cons_of_mem _ hm)
    exact (yields_nameAttribute _ _ (by decide) (by decide) (by decide) hkey hencoding _ _).imp
      (fun _ h => h) (fun _ _ h => h.widen hused) fun _ => cut_of_tagged hroot

theorem yields_valueStart (hroot : g.Rooted rootName []) (v : Value) {type : String}
    (htype : Printable type) (encoding : Option AttributeEncoding) :
    Yields (Page g) (valueStart v type encoding) (fun _ => Announced type encoding g) Cut := by
  unfold valueStart
  refine (yields_startElement (by decide)).bind fun _ => ?_
  have hfirst : Yields (Tagged "value" (· = []) g) (writeAttribute "type" type)
      (fun _ => Tagged "value" (Carries ["type"] [⟨"type", type⟩]) g) Cut :=
    (yields_writeAttribute (by decide) htype (by simp)).imp_pre fun _ h => h.of_nil
  refine hfirst.bind fun _ => ?_
  cases encoding with
  | none => exact yields_keyAttribute hroot (by decide) (by decide) (by decide) v
  | some e =>
    have hsecond : Yields (Tagged "value" (Carries ["type"] [⟨"type", type⟩]) g)
        (writeAttribute "value_encoding" e.name)
        (fun _ => Tagged "value" (Carries ["type", "value_encoding"] [⟨"type", type⟩]) g) Cut := by
      have hmark : Printable e.name := by cases e <;> decide
      exact (yields_writeAttribute (by decide) hmark (by decide)).imp_post fun _ _ h =>
        h.forget.widen (by simp)
    exact hsecond.bind fun _ => yields_keyAttribute hroot (by decide) (by decide) (by decide) v

/-- Whether a value is open behind the trees of a document, with the texts of its payload in it. -/
def Shown (type : String) (g : Growing) (w : Writer) : Prop :=
  ∃ attributes texts, (⟨"type", type⟩ ∈ attributes ∧ (∀ s ∈ texts, IsText s) ∧
    (texts ≠ [] → type = listMark.value)) ∧ Page ((g.opened "value" attributes).add texts) w

/-- A payload that is shown by attributes. -/
theorem shown_of_tagged {used : List String} {type : String}
    (h : Tagged "value" (Carries used [⟨"type", type⟩]) g w) : Shown type g w := by
  obtain ⟨attributes, hc, hpage⟩ := h.page
  refine ⟨attributes, [], ⟨hc.has _ List.mem_cons_self, by simp, by simp⟩, ?_⟩
  rwa [Growing.add_nil]

theorem yields_base64Payload {type : String} (raw : Bytes) (length : Int) :
    Yields (Announced type (some .base64) g) (base64Payload raw length)
      (fun _ => Shown type g) Cut :=
  (yields_base64 (by decide) (by decide) raw length).imp_post fun _ _ => shown_of_tagged

theorem yields_numberAttribute {type : String} (hroot : g.Rooted rootName []) (bits : Nat)
    (p : Payload) :
    Yields (Announced type none g) (numberAttribute bits p) (fun _ => Shown type g) Cut := by
  unfold numberAttribute
  split
  next number =>
    have hnumber := printable_decimal (signed bits number)
    exact (yields_writeAttribute (by decide) hnumber (by decide)).imp_post fun _ _ h =>
      shown_of_tagged h.forget
  next => exact .throw fun _ => cut_of_tagged hroot

/-- A text of a list of texts. -/
theorem yields_textElement (hroot : g.Rooted rootName []) (v : Value) (entry : Option String) :
    Yields (Page g)
      (element "string" <| attempt "value_multiple_strings" (.value v)
        (safeAttribute (some "value") (some "value_encoding") (entry.map .text)))
      (fun _ => Adds g (One IsText)) Cut := by
  have hshown : Yields (Tagged "string" (Carries [] []) g)
      (attempt "value_multiple_strings" (.value v)
        (safeAttribute (some "value") (some "value_encoding") (entry.map .text)))
      (fun _ => Tagged "string" (Carries ["value", "value_encoding"] []) g)
      (Tagged "string" (Carries [] []) g) :=
    yields_attempt_safeAttribute _ _ (by decide) (by decide) (by decide) (by simp) (by simp) _
  have hcontent : Yields (Tagged "string" (· = []) g)
      (attempt "value_multiple_strings" (.value v)
        (safeAttribute (some "value") (some "value_encoding") (entry.map .text)))
      (fun _ w => ∃ attributes inside, inside = [] ∧
        Page ((g.opened "string" attributes).add inside) w) Cut := by
    refine hshown.imp (fun _ h => h.of_nil) (fun _ w h => ?_)
      fun _ => cut_of_tagged hroot
    obtain ⟨attributes, -, hpage⟩ := h.page
    exact ⟨attributes, [], rfl, by rwa [Growing.add_nil]⟩
  have hinner := outer_ne_nil_of_rooted hroot
  refine (yields_element hinner (by decide) (by decide) hcontent).imp_post ?_
  rintro _ w ⟨attributes, _, rfl, hpage⟩
  exact ⟨_, ⟨_, rfl, attributes, rfl⟩, hpage⟩

/-- The texts of a list, one behind the other. -/
theorem yields_textElements (v : Value) : ∀ (entries : List (Option String)) {g : Growing},
    g.Rooted rootName [] →
      Yields (Page g) (textElements v entries) (fun _ => Adds g (∀ t ∈ ·, IsText t)) Cut
  | [], g, _ => .pure fun w hw => ⟨[], by simp, by rwa [Growing.add_nil]⟩
  | entry :: entries, g, hroot => by
    refine (yields_textElement hroot v entry).bind fun _ => .of_exists fun ts => .of_and ?_
    rintro ⟨t, rfl, ht⟩
    refine (yields_textElements v entries (hroot.add [t])).imp_post fun _ w h => ?_
    obtain ⟨ts, hts, hpage⟩ := h
    rw [Growing.add_add] at hpage
    exact ⟨_, List.forall_mem_cons.mpr ⟨ht, hts⟩, hpage⟩

theorem yields_payload (hroot : g.Rooted rootName []) {shape : Shape} {v : Value} {type : String}
    (htype : shape = .strings → type = listMark.value) (p : Payload) :
    Yields (Announced type (announced shape v) g) (payload shape v p)
      (fun _ => Shown type g) Cut := by
  have hother : Yields
      (Announced type (if 0 < v.length then some AttributeEncoding.base64 else none) g)
      (if 0 < v.length then base64Payload (payloadBytes p) v.length else pure ())
      (fun _ => Shown type g) Cut := by
    split
    · exact yields_base64Payload _ _
    · exact .pure fun _ => shown_of_tagged
  cases shape with
  | string =>
    have hnew : "value" ∉ valueNames none := by decide
    have henew : "value_encoding" ∉ valueNames none := by decide
    exact (yields_attempt_safeAttribute _ _ (by decide) (by decide) (by decide) hnew henew _).imp
      (fun _ h => h) (fun _ _ => shown_of_tagged) fun _ => cut_of_tagged hroot
  | strings =>
    refine .of_tagged fun attributes hc => ?_
    have hopen := hroot.opened "value" attributes
    refine (yields_textElements v (textEntries p) hopen).imp_post fun _ w h => ?_
    obtain ⟨texts, htexts, hpage⟩ := h
    exact ⟨attributes, texts, ⟨hc.has _ List.mem_cons_self, htexts, fun _ => htype rfl⟩, hpage⟩
  | dword => exact yields_numberAttribute hroot 32 p
  | qword => exact yields_numberAttribute hroot 64 p
  | badString => exact yields_base64Payload _ _
  | binary => exact yields_base64Payload _ _
  | none => exact hother
  | other => exact hother

theorem yields_valueEnd {type : String} (hroot : g.Rooted rootName []) (src : Source) (v : Value) :
    Yields (Shown type g) (valueEnd src v)
      (fun _ => Adds g (One IsValue)) Cut := by
  refine .of_exists fun attributes => .of_exists fun texts => .of_and ?_
  rintro ⟨htype, htexts, hlist⟩
  have hopen := hroot.opened "value" attributes
  have hinner : ((g.opened "value" attributes).add texts).outer ≠ [] := outer_opened_ne_nil _ _
  have hruns : Yields (Page ((g.opened "value" attributes).add texts))
      (attempt "value_byte_runs" (.value v) (valueByteRuns src v))
      (fun _ => Adds ((g.opened "value" attributes).add texts) (AtMostOne IsByteRuns)) Cut :=
    (yields_attempt_adds (yields_valueByteRuns hinner src v)).imp_fail fun _ => cut_of_page hopen
  refine hruns.bind fun _ => .of_exists fun runs => .of_and fun hruns => .write fun w hpage => ?_
  rw [Growing.add_add] at hpage
  have hend : PlainToken (.endTag "value") := ⟨by decide, by decide⟩
  obtain ⟨w', hcall, hpage'⟩ := Writer.At.endElement hpage (outer_ne_nil_of_rooted hroot) hend
  refine ⟨(), w', hcall, _, ⟨_, rfl, attributes, texts, runs, rfl, htexts, hruns, ?_⟩, hpage'⟩
  intro hne
  rw [hlist hne] at htype
  exact htype

/-- A value is written as a whole in the step for a shape. -/
theorem yields_present (hroot : g.Rooted rootName []) (src : Source) (shape : Shape) (v : Value)
    (p : Payload) :
    Yields (Page g) (present src shape v p)
      (fun _ => Adds g (One IsValue)) Cut := by
  have htype : Yields (Page g) (ask (valueType shape v) id)
      (fun type w => valueType shape v = .ok type ∧ Page g w) Cut :=
    (yields_ask _ _).imp_fail fun _ => cut_of_page hroot
  refine htype.bind fun type => .of_and fun htype => ?_
  obtain ⟨hprintable, hlist⟩ := plain_valueType htype
  refine (yields_valueStart hroot v hprintable _).bind fun _ => ?_
  exact (yields_payload hroot hlist p).bind fun _ => yields_valueEnd hroot src v

/-- **A value is written as a whole**, or the document is cut off. -/
theorem yields_value (hroot : g.Rooted rootName []) (src : Source) (v : Value) :
    Yields (Page g) (value src v) (fun _ => Adds g (One IsValue)) Cut := by
  have hshape : Yields (Page g) (ask v.presentation id)
      (fun shown w => v.presentation = .ok shown ∧ Page g w) Cut :=
    (yields_ask _ _).imp_fail fun _ => cut_of_page hroot
  exact hshape.bind fun shown => .of_and fun _ => yields_present hroot src shown.1 v shown.2

end HiveDump.Report
