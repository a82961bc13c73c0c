import HiveDump.Markup.Writer
import HiveDump.Proofs.Markup.Growing

/-!
# What the calls of a writer do

While everything goes well a writer stands for trees that are being written (`Writer.At`): the
innermost open element may have its start tag still to be written, and then takes attributes. Each
call that the state allows succeeds and does to the trees what it says.

The tokens of these trees are well formed, and satisfy a further condition `P` of what is written.

Results:
* `call_startElement`, `call_writeBase64`, `call_endAttribute`, `call_endElement`: the calls;
* **`At.startElement`**, **`At.endElement`**, `At.writeText`, `AtTag.writeAttribute`,
  `AtTag.call_startAttribute`: the trees behind them;
* `At.startDocument`, `At.endRoot`, `Done.call_endDocument`, **`At.endDocument`**: the start and the
  end of a document.
-/

namespace HiveDump.Writer

open Markup Markup.Tree

/-! ## Sequences of calls -/

section Calls

variable {α β : Type} (w : Writer)

@[simp] theorem call_pure (a : α) : w.call (pure a) = (.ok a, w) := rfl

@[simp] theorem call_throw (fault : WriteFault) :
    w.call (throw fault : Writing α) = (.error fault, w) := rfl

@[simp] theorem call_get : w.call (get : Writing Writer) = (.ok w, w) := rfl

@[simp] theorem call_set (w' : Writer) : w.call (set w' : Writing PUnit) = (.ok ⟨⟩, w') := rfl

@[simp] theorem call_modify (change : Writer → Writer) :
    w.call (modify change : Writing PUnit) = (.ok ⟨⟩, change w) := rfl

theorem call_bind (x : Writing α) (f : α → Writing β) :
    w.call (x >>= f) = match w.call x with
      | (.ok a, w') => w'.call (f a)
      | (.error fault, w') => (.error fault, w') := by
  change ExceptT.bindCont f (w.call x).1 (w.call x).2 = _
  rcases w.call x with ⟨_ | a, w'⟩ <;> rfl

theorem call_get_bind (f : Writer → Writing β) : w.call (get >>= f) = w.call (f w) := by
  rw [call_bind, call_get]

theorem call_set_bind (w' : Writer) (f : PUnit → Writing β) :
    w.call (set w' >>= f) = w'.call (f ⟨⟩) := by
  rw [call_bind, call_set]

theorem call_modify_bind (change : Writer → Writer) (f : PUnit → Writing β) :
    w.call (modify change >>= f) = (change w).call (f ⟨⟩) := by
  rw [call_bind, call_modify]

theorem call_throw_bind (fault : WriteFault) (f : α → Writing β) :
    w.call ((throw fault : Writing α) >>= f) = (.error fault, w) := by
  rw [call_bind, call_throw]

/-- What succeeds one behind the other succeeds at each step. -/
theorem of_call_bind {w w' : Writer} {x : Writing α} {f : α → Writing β} {b : β}
    (h : w.call (x >>= f) = (.ok b, w')) :
    ∃ a w₁, w.call x = (.ok a, w₁) ∧ w₁.call (f a) = (.ok b, w') := by
  rw [call_bind] at h
  rcases hx : w.call x with ⟨fault | a, w₁⟩
  · rw [hx] at h
    cases h
  · rw [hx] at h
    exact ⟨a, w₁, rfl, h⟩

theorem call_discard (x : Writing α) :
    w.call (discard x) = ((w.call x).1.map fun _ => (), (w.call x).2) := by
  have hmap : (discard x : Writing Unit) = x >>= fun _ => pure () := by
    rw [bind_pure_comp]
    rfl
  rw [hmap, call_bind]
  rcases w.call x with ⟨_ | a, w'⟩ <;> rfl

end Calls

/-! ## Start tags that are still to be written -/

/-- The start tag that takes attributes, as a token. -/
def pendingTokens (w : Writer) : List Token :=
  w.pending.toList.map fun tag => .startTag tag.name tag.attributes

/-- The open elements, with the one whose start tag takes attributes. -/
def openNames (w : Writer) : List String :=
  w.pending.toList.map (·.name) ++ w.openElements

theorem depth_eq_length (w : Writer) : w.depth = w.openNames.length := by
  rw [depth, openNames]
  cases w.pending <;> simp

/-- The writer once its start tag is written. -/
def settled (w : Writer) : Writer :=
  { w with
    pending := none
    tokens := w.tokens ++ w.pendingTokens.toArray
    openElements := w.openNames }

/-- The writer once tokens more are written. -/
def wrote (w : Writer) (t : Token) : Writer :=
  { w with tokens := w.tokens.push t }

/-- Whether a writer stands for these trees in an encoding: no call has failed, and no attribute is
being written. -/
structure At (encoding : String) (P : Token → Prop) (w : Writer) (g : Growing) : Prop where
  label : w.label = encoding
  device : w.device = .working
  stage : w.stage = .writing
  noAttribute : w.openAttribute = none
  rootOpen : w.rootClosed = false
  tokens : w.tokens.toList ++ w.pendingTokens = .declaration encoding :: g.tokens
  names : w.openNames = g.outer.map (·.1)
  wellFormed : ∀ t ∈ g.tokens, t.WellFormed
  all : ∀ t ∈ g.tokens, P t

/-- Whether a writer stands for these trees with a new element whose start tag takes
attributes. -/
structure AtTag (encoding : String) (P : Token → Prop) (name : String) (attributes : List Attribute)
    (w : Writer) (g : Growing) : Prop where
  holds : w.At encoding P (g.opened name attributes)
  pending : w.pending = some ⟨name, attributes⟩

variable {encoding : String} {P : Token → Prop} {w : Writer} {g : Growing} {name : String}
  {attributes : List Attribute}

/-! ## Names -/

theorem toNat_alpha {c : Char} (h : c.isAlpha = true) :
    0x41 ≤ c.toNat ∧ c.toNat ≤ 0x5A ∨ 0x61 ≤ c.toNat ∧ c.toNat ≤ 0x7A := by
  have hranges : (decide (c.val ≥ 'A'.val ∧ c.val ≤ 'Z'.val) ||
      decide (c.val ≥ 'a'.val) && decide (c.val ≤ 'z'.val)) = true := h
  simp only [Bool.or_eq_true, Bool.and_eq_true, decide_eq_true_eq, ge_iff_le,
    UInt32.le_iff_toNat_le] at hranges
  exact hranges

theorem isLegal_of_inName {c : Char} (h : inName c = true) : isLegal c = true := by
  simp only [inName, startsName, Bool.or_eq_true, beq_iff_eq, inRanges, nameStarts, nameParts,
    List.any_cons, List.any_nil, Bool.and_eq_true, decide_eq_true_eq, Bool.false_eq_true,
    or_false] at h
  have hn : 0x20 ≤ c.toNat ∧ c.toNat ≠ 0xFFFE ∧ c.toNat ≠ 0xFFFF := by
    rcases h with (((ha | rfl) | rfl) | hr) | hr
    · have := toNat_alpha ha
      omega
    · decide
    · decide
    · omega
    · omega
  unfold isLegal
  rw [if_neg (by omega)]
  simp only [Bool.and_eq_true, decide_eq_true_eq]
  exact hn.2

theorem nameFault?_of_isName {s : String} (h : isName s = true) : nameFault? s = none := by
  unfold isName at h
  have hlegal : legal s = true := by
    unfold legal
    cases hs : s.toList with
    | nil => rfl
    | cons c cs =>
      simp only [hs, Bool.and_eq_true, List.all_eq_true] at h
      rw [List.all_cons, Bool.and_eq_true, List.all_eq_true]
      refine ⟨isLegal_of_inName ?_, fun d hd => isLegal_of_inName (h.2 d hd)⟩
      rw [inName, h.1]
      rfl
  have hne : s.isEmpty = false := by
    rw [String.isEmpty_eq_false_iff]
    rintro rfl
    simp at h
  rw [nameFault?, textFault?, hlegal, hne]
  rfl

theorem tagFault?_of_wellFormed (h : (Token.startTag name attributes).WellFormed) :
    tagFault? ⟨name, attributes⟩ = none := by
  obtain ⟨hname, hattributes, -⟩ := h
  have hall :
      (attributes.findSome? fun a => (nameFault? a.name).or (textFault? a.value)) = none := by
    rw [List.findSome?_eq_none_iff]
    intro a ha
    obtain ⟨hn, hv⟩ := hattributes a ha
    rw [nameFault?_of_isName hn, textFault?, hv]
    rfl
  rw [tagFault?, hall, Option.none_or]
  exact nameFault?_of_isName hname

/-! ## The calls -/

theorem settled_of_none (h : w.pending = none) : w.settled = w := by
  simp only [settled, pendingTokens, openNames, h]
  cases w
  simp_all

/-- Before anything but an attribute, the start tag is written. -/
theorem call_flush (h : w.At encoding P g) (call : String) :
    w.call (flush call) = (.ok (), w.settled) := by
  cases hp : w.pending with
  | none =>
    rw [settled_of_none hp]
    simp [flush, call_bind, hp]
  | some tag =>
    have htag : tagFault? tag = none := by
      have hmem : Token.startTag tag.name tag.attributes ∈ g.tokens := by
        have hmem : Token.startTag tag.name tag.attributes ∈ .declaration encoding :: g.tokens := by
          rw [← h.tokens, pendingTokens, hp]
          exact List.mem_append_right _ (List.mem_singleton.mpr rfl)
        rcases List.mem_cons.mp hmem with hmem | hmem
        · cases hmem
        · exact hmem
      exact tagFault?_of_wellFormed (h.wellFormed _ hmem)
    simp [flush, call_bind, hp, h.noAttribute, htag, h.rootOpen, emit, h.device, settled,
      pendingTokens, openNames]

theorem At.depth (h : w.At encoding P g) : w.depth = g.outer.length := by
  rw [depth_eq_length, h.names, List.length_map]

theorem At.settled (h : w.At encoding P g) : w.settled.At encoding P g := by
  refine ⟨h.label, h.device, h.stage, h.noAttribute, h.rootOpen, ?_, ?_, h.wellFormed, h.all⟩
  · rw [← h.tokens]
    simp [Writer.settled, pendingTokens]
  · rw [← h.names]
    simp [Writer.settled, openNames]

/-- Whether documents can be written in the encoding with a label. -/
structure Usable (label : String) (cs : Charset) : Prop where
  legal : legal label = true
  charset : Charset.ofLabel? label = some cs
  markup : cs.writesMarkup = true

theorem usable_utf8 : Usable "utf-8" .utf8 :=
  ⟨by decide, by decide +kernel, by decide⟩

/-- A document starts in an encoding that has markup. -/
theorem At.startDocument {label : String} {cs : Charset} (h : Usable label cs) :
    ∃ w', ({ label := label } : Writer).call startDocument = (.ok (), w') ∧
      w'.At label P {} := by
  refine ⟨{ label := label, stage := .writing, tokens := #[.declaration label] }, ?_,
    rfl, rfl, rfl, rfl, rfl, rfl, rfl, ?_, ?_⟩
  · simp [Writer.startDocument, call_bind, h.legal, h.charset, h.markup, emit]
  · simp [Growing.tokens, Growing.outerTokens, forestTokens]
  · simp [Growing.tokens, Growing.outerTokens, forestTokens]

/-- It starts in no other encoding. -/
theorem usable_of_startDocument {label : String} {w' : Writer}
    (h : ({ label := label } : Writer).call startDocument = (.ok (), w')) :
    ∃ cs, Usable label cs := by
  by_cases hlegal : Markup.legal label = true
  · cases hlabel : Charset.ofLabel? label with
    | none => simp [Writer.startDocument, call_bind, hlegal, hlabel] at h
    | some cs =>
      by_cases hmarkup : cs.writesMarkup = true
      · exact ⟨cs, hlegal, hlabel, hmarkup⟩
      · simp [Writer.startDocument, call_bind, hlegal, hlabel, hmarkup, emit, refuse] at h
  · simp [Writer.startDocument, call_bind, hlegal, refuse] at h

theorem call_startElement (h : w.At encoding P g) (name : String) :
    w.call (startElement name) = (.ok (), { w.settled with pending := some { name := name } }) := by
  simp [startElement, requireDocument, call_bind, h.stage, call_flush h]

/-- **A new element is open, and takes attributes.** -/
theorem At.startElement (h : w.At encoding P g) (hname : isName name = true)
    (hP : P (.startTag name [])) :
    ∃ w', w.call (startElement name) = (.ok (), w') ∧ w'.AtTag encoding P name [] g := by
  have hs := h.settled
  refine ⟨_, call_startElement h name, ⟨hs.label, hs.device, hs.stage, hs.noAttribute, hs.rootOpen,
    ?_, ?_, ?_, ?_⟩, rfl⟩
  · have htokens := hs.tokens
    have hnone : w.settled.pendingTokens = [] := rfl
    rw [hnone, List.append_nil] at htokens
    rw [Growing.tokens_opened, ← List.cons_append, ← htokens]
    rfl
  · have hnames := hs.names
    have hopen : w.settled.openNames = w.settled.openElements := rfl
    rw [hopen] at hnames
    change [name] ++ w.settled.openElements = _
    rw [hnames]
    rfl
  · rw [Growing.tokens_opened, List.forall_mem_append, List.forall_mem_singleton]
    exact ⟨h.wellFormed, hname, by simp, List.nodup_nil⟩
  · rw [Growing.tokens_opened, List.forall_mem_append, List.forall_mem_singleton]
    exact ⟨h.all, hP⟩

/-- A new name beside names no two of which are the same. -/
theorem nodup_names_append {a : Attribute} (h : (attributes.map (·.name)).Nodup)
    (hnew : a.name ∉ attributes.map (·.name)) : ((attributes ++ [a]).map (·.name)).Nodup := by
  rw [List.map_append, List.map_singleton, List.nodup_append]
  refine ⟨h, by simp, fun n hn m hm heq => ?_⟩
  rw [List.mem_singleton.mp hm] at heq
  exact hnew (heq ▸ hn)

/-- The start tag with other attributes. -/
theorem AtTag.replace (h : w.AtTag encoding P name attributes g) {others : List Attribute}
    (hwell : (Token.startTag name others).WellFormed) (hP : P (.startTag name others)) :
    ({ w with pending := some ⟨name, others⟩ } : Writer).AtTag encoding P name others g := by
  obtain ⟨⟨hlabel, hdevice, hstage, hattr, hroot, htokens, hnames, hwf, hall⟩, hpending⟩ := h
  rw [Growing.tokens_opened, List.forall_mem_append, List.forall_mem_singleton] at hwf hall
  refine ⟨⟨hlabel, hdevice, hstage, hattr, hroot, ?_, ?_, ?_, ?_⟩, rfl⟩
  · rw [Growing.tokens_opened, ← List.cons_append, pendingTokens, hpending] at htokens
    rw [Growing.tokens_opened, ← List.cons_append, ← (List.append_inj' htokens rfl).1]
    rfl
  · rw [openNames, hpending] at hnames
    exact hnames
  · rw [Growing.tokens_opened, List.forall_mem_append, List.forall_mem_singleton]
    exact ⟨hwf.1, hwell⟩
  · rw [Growing.tokens_opened, List.forall_mem_append, List.forall_mem_singleton]
    exact ⟨hall.1, hP⟩

/-- A writer whose start tag has taken attributes. -/
def adding (w : Writer) (tag : PendingTag) (added : List Attribute) : Writer :=
  { w with pending := some { tag with attributes := tag.attributes ++ added } }

theorem call_writeAttribute {tag : PendingTag} {n : String} (hp : w.pending = some tag)
    (hnew : n ∉ tag.attributes.map (·.name)) (value : String) :
    w.call (Writer.writeAttribute n value) = (.ok (), w.adding tag [⟨n, value⟩]) := by
  have hany : ¬∃ b ∈ tag.attributes, b.name = n := by
    rintro ⟨b, hb, heq⟩
    exact hnew (List.mem_map.mpr ⟨b, hb, heq⟩)
  simp [Writer.writeAttribute, requireTag, call_bind, hp, hany, adding]

/-- While one attribute takes bytes, no other can. -/
theorem call_startAttribute {tag : PendingTag} (hp : w.pending = some tag) (n : String) :
    w.call (startAttribute n) = match w.openAttribute with
      | none => (.ok (), { w with openAttribute := some { name := n } })
      | some _ => (.error (.misuse .attributeAlreadyOpen), w) := by
  have htag : w.call (requireTag "start_attribute") = (.ok tag, w) := by
    simp [requireTag, call_bind, hp]
  cases ho : w.openAttribute <;>
    simp [startAttribute, call_bind, call_discard, htag, Except.map, ho, misuse]

/-- A start tag takes an attribute with a new name. -/
theorem AtTag.writeAttribute (h : w.AtTag encoding P name attributes g) {a : Attribute}
    (hname : isName a.name = true) (hvalue : legal a.value = true)
    (hnew : a.name ∉ attributes.map (·.name)) (hP : P (.startTag name (attributes ++ [a]))) :
    ∃ w', w.call (writeAttribute a.name a.value) = (.ok (), w') ∧
      w'.AtTag encoding P name (attributes ++ [a]) g := by
  have hwell := h.holds.wellFormed
  rw [Growing.tokens_opened, List.forall_mem_append, List.forall_mem_singleton] at hwell
  obtain ⟨-, hn, hattributes, hnodup⟩ := hwell
  refine ⟨_, call_writeAttribute h.pending hnew a.value, h.replace ?_ hP⟩
  refine ⟨hn, ?_, nodup_names_append hnodup hnew⟩
  rw [List.forall_mem_append, List.forall_mem_singleton]
  exact ⟨hattributes, hname, hvalue⟩

/-- A start tag takes an attribute whose content comes as bytes. -/
theorem AtTag.call_startAttribute (h : w.AtTag encoding P name attributes g) (n : String) :
    w.call (startAttribute n) = (.ok (), { w with openAttribute := some { name := n } }) := by
  rw [Writer.call_startAttribute h.pending, h.holds.noAttribute]

theorem call_writeBase64 (w : Writer) (a : PendingAttribute) (data : Bytes) (start : Int)
    (length : Option Int) :
    ({ w with openAttribute := some a } : Writer).call (writeBase64 data start length) =
      (.ok (), { w with
        openAttribute := some ⟨a.name,
          a.content ++ data.slice start (length.elim (data.length : Int) (start + ·))⟩ }) := by
  cases length <;> simp [writeBase64, call_bind]

theorem call_endAttribute (h : w.openAttribute = none) (a : PendingAttribute) :
    ({ w with openAttribute := some a } : Writer).call endAttribute =
      w.call (writeAttribute a.name (Base64.text a.content)) := by
  have hw : ({ w with openAttribute := none } : Writer) = w := by
    cases w
    simp_all
  simp [endAttribute, call_bind, hw]

theorem call_endElement {outer : Growing} {ts : List Tree}
    (h : w.At encoding P ((outer.opened name attributes).add ts)) :
    w.call endElement = (.ok (), { w.settled with
      openElements := outer.outer.map (·.1)
      rootClosed := (outer.outer.map (·.1)).isEmpty
      tokens := w.settled.tokens.push (.endTag name) }) := by
  have hopen : w.settled.openElements = name :: outer.outer.map (·.1) := h.names
  simp [endElement, requireDocument, call_bind, h.stage, h.noAttribute, call_flush h, hopen,
    emitEndTag, emit, h.settled.device]

/-- The innermost element is finished; it is not the root. -/
theorem At.endElement {ts : List Tree} (h : w.At encoding P ((g.opened name attributes).add ts))
    (hinner : g.outer ≠ []) (hP : P (.endTag name)) :
    ∃ w', w.call endElement = (.ok (), w') ∧
      w'.At encoding P (g.add [.element name attributes ts]) := by
  have hs := h.settled
  have hname : isName name = true := by
    have hmem : Token.startTag name attributes ∈ ((g.opened name attributes).add ts).tokens :=
      Growing.startTag_mem (o := (name, attributes, g.here)) List.mem_cons_self
    exact (h.wellFormed _ hmem).1
  refine ⟨_, call_endElement h, hs.label, hs.device, hs.stage, hs.noAttribute, ?_, ?_, ?_, ?_, ?_⟩
  · cases hg : g.outer with
    | nil => exact absurd hg hinner
    | cons o outer => rfl
  · have htokens := hs.tokens
    have hnone : w.settled.pendingTokens = [] := rfl
    rw [hnone, List.append_nil] at htokens
    rw [Growing.tokens_closed, ← List.cons_append, ← htokens]
    simp [pendingTokens, Writer.settled]
  · rfl
  · rw [Growing.tokens_closed, List.forall_mem_append, List.forall_mem_singleton]
    exact ⟨h.wellFormed, hname⟩
  · rw [Growing.tokens_closed, List.forall_mem_append, List.forall_mem_singleton]
    exact ⟨h.all, hP⟩

/-- Text stands in the innermost element. -/
theorem At.writeText (h : w.At encoding P g) (hinner : g.outer ≠ []) {text : String}
    (hne : text.isEmpty = false) (hlegal : legal text = true) (hP : P (.text text)) :
    ∃ w', w.call (writeText text) = (.ok (), w') ∧ w'.At encoding P (g.add [.text text]) := by
  have hs := h.settled
  have hopen : w.settled.openElements = g.outer.map (·.1) := h.names
  refine ⟨w.settled.wrote (.text text), ?_, hs.label, hs.device, hs.stage, hs.noAttribute,
    hs.rootOpen, ?_, ?_, ?_, ?_⟩
  · simp [Writer.writeText, requireDocument, call_bind, h.stage, call_flush h, hopen, hinner,
      textFault?, hlegal, hne, emit, hs.device, wrote]
  · have htokens := hs.tokens
    have hnone : w.settled.pendingTokens = [] := rfl
    rw [hnone, List.append_nil] at htokens
    rw [Growing.tokens_add, ← List.cons_append, ← htokens]
    simp [pendingTokens, Writer.settled, wrote, forestTokens, Tree.tokens]
  · exact hs.names
  · rw [Growing.tokens_add, forestTokens_singleton, List.forall_mem_append, Tree.tokens,
      List.forall_mem_singleton]
    exact ⟨h.wellFormed, hlegal⟩
  · rw [Growing.tokens_add, forestTokens_singleton, List.forall_mem_append, Tree.tokens,
      List.forall_mem_singleton]
    exact ⟨h.all, hP⟩

/-! ## The end of a document -/

/-- Whether a writer has written a root element, and not finished its document. -/
structure Done (encoding : String) (root : Tree) (w : Writer) : Prop where
  label : w.label = encoding
  device : w.device = .working
  stage : w.stage = .writing
  openElements : w.openElements = []
  pending : w.pending = none
  rootClosed : w.rootClosed = true
  tokens : w.tokens.toList = .declaration encoding :: root.tokens
  wellFormed : ∀ t ∈ root.tokens, t.WellFormed

/-- The root is finished. -/
theorem At.endRoot {ts : List Tree}
    (h : w.At encoding P ((Growing.opened {} name attributes).add ts)) :
    ∃ w', w.call Writer.endElement = (.ok (), w') ∧
      w'.Done encoding (.element name attributes ts) := by
  have hclosed : (.element name attributes ts : Tree).tokens =
      ((Growing.opened {} name attributes).add ts).tokens ++ [.endTag name] := by
    rw [← Growing.tokens_closed]
    simp [Growing.tokens, Growing.outerTokens, Growing.add, forestTokens_singleton]
  have hname : isName name = true := by
    have hmem : Token.startTag name attributes ∈
        ((Growing.opened {} name attributes).add ts).tokens :=
      Growing.startTag_mem (o := (name, attributes, [])) List.mem_cons_self
    exact (h.wellFormed _ hmem).1
  have hs := h.settled
  have htokens := hs.tokens
  have hnone : w.settled.pendingTokens = [] := rfl
  rw [hnone, List.append_nil] at htokens
  refine ⟨_, call_endElement h, hs.label, hs.device, hs.stage, rfl, rfl, rfl, ?_, ?_⟩
  · rw [hclosed, ← List.cons_append, ← htokens, Array.toList_push]
  · rw [hclosed, List.forall_mem_append, List.forall_mem_singleton]
    exact ⟨h.wellFormed, hname⟩

/-- The document is finished behind its root. -/
theorem Done.call_endDocument {root : Tree} (h : w.Done encoding root) :
    w.call endDocument = (.ok (), { w with stage := .finished }) := by
  simp [endDocument, requireDocument, call_bind, depth, h.stage, h.openElements, h.pending,
    endElements, h.rootClosed, h.device]

/-- Every open element is finished, and the root at last. -/
theorem At.endElements (h : w.At encoding P g) (hroot : g.Rooted name attributes)
    (hP : ∀ n, P (.endTag n)) :
    ∃ inside w', w.call (Writer.endElements g.outer.length) = (.ok (), w') ∧
      w'.Done encoding (.element name attributes inside) := by
  obtain ⟨here, outer⟩ := g
  obtain ⟨inner, houter⟩ := hroot
  obtain rfl : outer = inner ++ [(name, attributes, [])] := houter
  induction inner generalizing w here with
  | nil =>
    have hopen : w.At encoding P ((Growing.opened {} name attributes).add here) := h
    obtain ⟨w', hcall, hdone⟩ := hopen.endRoot
    refine ⟨here, w', ?_, hdone⟩
    simp [Writer.endElements, hcall]
  | cons o inner ih =>
    obtain ⟨n, a, before⟩ := o
    have hopen : w.At encoding P
        ((Growing.opened ⟨before, inner ++ [(name, attributes, [])]⟩ n a).add here) := h
    obtain ⟨w₁, hcall, hw₁⟩ := hopen.endElement (by simp) (hP n)
    obtain ⟨inside, w', hrest, hdone⟩ := ih _ hw₁
    refine ⟨inside, w', ?_, hdone⟩
    rw [List.cons_append, List.length_cons, Writer.endElements, call_bind, hcall]
    exact hrest

/-- **A document can be finished wherever it is inside its root.** -/
theorem At.endDocument (h : w.At encoding P g) (hroot : g.Rooted name attributes)
    (hP : ∀ n, P (.endTag n)) :
    ∃ inside, ∃ w' : Writer, w.call Writer.endDocument = (.ok (), { w' with stage := .finished }) ∧
      w'.Done encoding (.element name attributes inside) := by
  obtain ⟨inside, w', hcall, hdone⟩ := h.endElements hroot hP
  refine ⟨inside, w', ?_, hdone⟩
  simp [Writer.endDocument, requireDocument, call_bind, h.stage, h.depth, hcall, hdone.rootClosed,
    hdone.device]

/-- What was written stays when the document is let go. -/
theorem call_release (w : Writer) :
    ∃ w', w.call release = (.ok (), w') ∧ w'.label = w.label ∧ w'.tokens = w.tokens := by
  unfold release
  simp only [call_bind, call_get]
  cases w.stage with
  | idle => exact ⟨w, rfl, rfl, rfl⟩
  | finished => exact ⟨w, rfl, rfl, rfl⟩
  | unwritable => exact ⟨_, rfl, rfl, rfl⟩
  | writing => exact ⟨_, rfl, rfl, rfl⟩

end HiveDump.Writer
