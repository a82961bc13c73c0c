import HiveDump.Markup.Call
import HiveDump.Proofs.Markup.Prefix

/-!
# Calls in any order

What a writer holds behind calls in any order, those that failed included, in UTF-8 and on a device
that takes everything. It has written a part of a document with at most one root
(`Growing.OneRoot`), and it keeps account of the elements that are open; its start tag, if one is
open, carries names and no name twice (`PendingTag.Named`). Values are not looked at before the
start tag is written, so a start tag may hold values that no document may hold; it is then lost, and
nothing of it is written.

Results:
* **`Orderly.call`**: every call but `release` keeps a writer in order, whether it succeeds or not;
* `orderly_afterCalls`: so do all calls in a row;
* **`endDocument_isDocument`**: a document that is finished behind them is complete and well formed.
-/

namespace HiveDump

open Markup Markup.Tree

/-! ## Documents with one root -/

namespace Markup.Tree.Growing

/-- How far the trees of a document have come, and whether the root is closed: none is there, there
is an open root with everything inside it, or the root is closed and stands alone. -/
inductive OneRoot : Growing → Bool → Prop
  | before : OneRoot {} false
  | inside {g : Growing} {name : String} {attributes : List Attribute} :
      g.Rooted name attributes → OneRoot g false
  | behind (name : String) (attributes : List Attribute) (ts : List Tree) :
      OneRoot ⟨[.element name attributes ts], []⟩ true

variable {g : Growing}

/-- An element may be opened unless the root is closed. -/
theorem OneRoot.opened (h : g.OneRoot false) (name : String) (attributes : List Attribute) :
    (g.opened name attributes).OneRoot false := by
  cases h with
  | before => exact .inside ⟨[], rfl⟩
  | inside hrooted => exact .inside (hrooted.opened name attributes)

/-- Text may stand in an open element. -/
theorem OneRoot.text {closed : Bool} (h : g.OneRoot closed) (hopen : g.outer ≠ [])
    (content : String) : (g.add [.text content]).OneRoot closed := by
  cases h with
  | before => exact absurd rfl hopen
  | inside hrooted => exact .inside (hrooted.add _)
  | behind name attributes ts => exact absurd rfl hopen

/-- Closing the outermost element closes the root. -/
theorem OneRoot.closed {closed : Bool} {name : String} {attributes : List Attribute}
    {before : List Tree} {outer : List (String × List Attribute × List Tree)}
    (h : g.OneRoot closed) (hopen : g.outer = (name, attributes, before) :: outer) :
    OneRoot ⟨before ++ [.element name attributes g.here], outer⟩ outer.isEmpty := by
  cases h with
  | before => cases hopen
  | behind n as ts => cases hopen
  | @inside _ n as hrooted =>
    obtain ⟨inner, hinner⟩ := hrooted
    rw [hopen] at hinner
    cases inner with
    | nil =>
      obtain ⟨htag, rfl⟩ := List.cons_eq_cons.mp hinner
      cases htag
      exact .behind _ _ _
    | cons o inner =>
      obtain ⟨-, rfl⟩ := List.cons_eq_cons.mp hinner
      have hsome : (inner ++ [(n, as, ([] : List Tree))]).isEmpty = false := by simp
      change OneRoot _ (inner ++ [(n, as, [])]).isEmpty
      rw [hsome]
      exact .inside ⟨inner, rfl⟩

end Markup.Tree.Growing

/-! ## Writers in order -/

/-- Whether a start tag carries names, none of its attributes twice. -/
structure PendingTag.Named (tag : PendingTag) : Prop where
  name : isName tag.name = true
  attributes : ∀ a ∈ tag.attributes, isName a.name = true
  nodup : (tag.attributes.map (·.name)).Nodup

namespace Writer

/-- Whether a writer has written the declaration and these trees, and knows what is open. -/
structure HasWritten (w : Writer) (g : Growing) : Prop where
  tokens : w.tokens.toList = .declaration w.label :: g.tokens
  openElements : w.openElements = g.outer.map (·.1)
  wellFormed : ∀ t ∈ g.tokens, t.WellFormed
  oneRoot : g.OneRoot w.rootClosed

/-- Whether a writer is in order, wherever it is in its document. -/
structure Orderly (w : Writer) : Prop where
  label : w.label = "utf-8"
  device : w.device = .working
  pending : ∀ tag, w.pending = some tag → tag.Named
  openAttribute : ∀ a, w.openAttribute = some a → isName a.name = true
  idle : w.stage = .idle → w.tokens = #[] ∧ w.openElements = []
  started : w.stage ≠ .idle → ∃ g, w.HasWritten g

variable {w : Writer} {g : Growing}

theorem orderly_blank : Orderly { label := "utf-8" } :=
  ⟨rfl, rfl, nofun, nofun, fun _ => ⟨rfl, rfl⟩, fun h => absurd rfl h⟩

/-- The open start tag is no part of what was written. -/
theorem Orderly.withPending (h : w.Orderly) {pending : Option PendingTag}
    (hpending : ∀ tag, pending = some tag → tag.Named) :
    Orderly { w with pending := pending } :=
  ⟨h.label, h.device, hpending, h.openAttribute, h.idle, fun hs =>
    have ⟨g, hw⟩ := h.started hs
    ⟨g, hw.tokens, hw.openElements, hw.wellFormed, hw.oneRoot⟩⟩

/-- Neither is the open attribute. -/
theorem Orderly.withAttribute (h : w.Orderly) {openAttribute : Option PendingAttribute}
    (hname : ∀ a, openAttribute = some a → isName a.name = true) :
    Orderly { w with openAttribute := openAttribute } :=
  ⟨h.label, h.device, h.pending, hname, h.idle, fun hs =>
    have ⟨g, hw⟩ := h.started hs
    ⟨g, hw.tokens, hw.openElements, hw.wellFormed, hw.oneRoot⟩⟩

/-- What a writer in order has written once its document is started. -/
theorem Orderly.hasWritten (h : w.Orderly) (hs : w.stage = .writing) : ∃ g, w.HasWritten g :=
  h.started (by rw [hs]; decide)

/-- A writer is in order once it has written further trees. -/
theorem HasWritten.orderly {w' : Writer} (hw : w'.HasWritten g) (h : w.Orderly)
    (hlabel : w'.label = w.label) (hdevice : w'.device = w.device) (hpending : w'.pending = w.pending)
    (hattribute : w'.openAttribute = w.openAttribute) (hs : w'.stage ≠ .idle) : w'.Orderly :=
  ⟨hlabel.trans h.label, hdevice.trans h.device, hpending ▸ h.pending,
    hattribute ▸ h.openAttribute, fun hidle => absurd hidle hs, fun _ => ⟨g, hw⟩⟩

/-! ## What is written -/

/-- A start tag opens an element. -/
theorem HasWritten.startTag (h : w.HasWritten g) (hroot : w.rootClosed = false) {name : String}
    {attributes : List Attribute} (hwell : (Token.startTag name attributes).WellFormed) :
    HasWritten { w with
      tokens := w.tokens.push (.startTag name attributes)
      openElements := name :: w.openElements } (g.opened name attributes) := by
  refine ⟨?_, ?_, ?_, ?_⟩
  · rw [Array.toList_push, h.tokens, Growing.tokens_opened]
    rfl
  · rw [h.openElements]
    rfl
  · rw [Growing.tokens_opened, List.forall_mem_append, List.forall_mem_singleton]
    exact ⟨h.wellFormed, hwell⟩
  · have hone := h.oneRoot
    rw [hroot] at hone
    change (g.opened name attributes).OneRoot w.rootClosed
    rw [hroot]
    exact hone.opened name attributes

/-- Text stands in the innermost open element. -/
theorem HasWritten.text (h : w.HasWritten g) (hopen : w.openElements ≠ []) {content : String}
    (hlegal : legal content = true) :
    HasWritten { w with tokens := w.tokens.push (.text content) } (g.add [.text content]) := by
  have houter : g.outer ≠ [] := by
    rintro houter
    rw [h.openElements, houter] at hopen
    exact hopen rfl
  refine ⟨?_, h.openElements, ?_, h.oneRoot.text houter content⟩
  · rw [Array.toList_push, h.tokens, Growing.tokens_add, forestTokens_singleton]
    rfl
  · rw [Growing.tokens_add, forestTokens_singleton, Tree.tokens, List.forall_mem_append,
      List.forall_mem_singleton]
    exact ⟨h.wellFormed, hlegal⟩

/-- An end tag closes the innermost open element. -/
theorem HasWritten.closed (h : w.HasWritten g) {name : String} {attributes : List Attribute}
    {before : List Tree} {outer : List (String × List Attribute × List Tree)}
    (hopen : g.outer = (name, attributes, before) :: outer) :
    HasWritten { w with
      openElements := outer.map (·.1)
      rootClosed := (outer.map (·.1)).isEmpty
      tokens := w.tokens.push (.endTag name) }
      ⟨before ++ [.element name attributes g.here], outer⟩ := by
  have hone := h.oneRoot.closed hopen
  obtain ⟨here, _⟩ := g
  cases hopen
  have hclosed : Growing.tokens ⟨before ++ [.element name attributes here], outer⟩ =
      Growing.tokens ⟨here, (name, attributes, before) :: outer⟩ ++ [.endTag name] :=
    Growing.tokens_closed (g := ⟨before, outer⟩)
  have hname : isName name = true :=
    (h.wellFormed _ (Growing.startTag_mem (o := (name, attributes, before))
      List.mem_cons_self)).1
  refine ⟨?_, rfl, ?_, ?_⟩
  · rw [Array.toList_push, h.tokens, hclosed]
    rfl
  · rw [hclosed, List.forall_mem_append, List.forall_mem_singleton]
    exact ⟨h.wellFormed, hname⟩
  · rw [List.isEmpty_map]
    exact hone

theorem HasWritten.endTag (h : w.HasWritten g) {name : String} {rest : List String}
    (hopen : w.openElements = name :: rest) :
    ∃ g', HasWritten { w with
      openElements := rest
      rootClosed := rest.isEmpty
      tokens := w.tokens.push (.endTag name) } g' := by
  rw [h.openElements] at hopen
  obtain ⟨⟨n, attributes, before⟩, outer, houter, rfl, rfl⟩ := List.map_eq_cons_iff.mp hopen
  exact ⟨_, h.closed houter⟩

/-! ## Calls that fail or succeed -/

/-- What a call leaves of a document that is being written, whether it succeeds or not. -/
structure Goes (w w' : Writer) : Prop where
  orderly : w'.Orderly
  stage : w'.stage = w.stage

/-- The values of a start tag that can be written are legal. -/
theorem wellFormed_of_tagFault? {tag : PendingTag} (hnamed : tag.Named)
    (h : tagFault? tag = none) : (Token.startTag tag.name tag.attributes).WellFormed := by
  rw [tagFault?, Option.or_eq_none_iff, List.findSome?_eq_none_iff] at h
  refine ⟨hnamed.name, fun a ha => ⟨hnamed.attributes a ha, ?_⟩, hnamed.nodup⟩
  have hvalue := (Option.or_eq_none_iff.mp (h.1 a ha)).2
  unfold textFault? at hvalue
  split at hvalue
  case isTrue hlegal => exact hlegal
  case isFalse => cases hvalue

/-- The start tag is written, or it is lost, or it stays because of an attribute. -/
theorem Orderly.flush (h : w.Orderly) (hs : w.stage = .writing) (name : String) :
    Goes w (w.call (flush name)).2 := by
  unfold Writer.flush
  rw [call_bind, call_get]
  dsimp only
  cases hp : w.pending with
  | none => exact ⟨h, rfl⟩
  | some tag =>
    have hlost : Goes w { w with pending := none } := ⟨h.withPending nofun, rfl⟩
    by_cases hattr : w.openAttribute.isSome = true
    · simpa [hattr, call_bind, misuse] using (⟨h, rfl⟩ : Goes w w)
    · cases htag : tagFault? tag with
      | some reason => simpa [hattr, call_bind, refuse, htag] using hlost
      | none =>
        by_cases hroot : w.rootClosed = true
        · simpa [hattr, call_bind, refuse, htag, hroot] using hlost
        · obtain ⟨g, hw⟩ := hlost.orderly.hasWritten hs
          have hwrote := hw.startTag (Bool.eq_false_iff.mpr hroot)
            (wellFormed_of_tagFault? (h.pending tag hp) htag)
          have hgoes : Goes w { w with
              pending := none
              tokens := w.tokens.push (.startTag tag.name tag.attributes)
              openElements := tag.name :: w.openElements } :=
            ⟨hwrote.orderly hlost.orderly rfl rfl rfl rfl (by simp [hs]), rfl⟩
          simpa [hattr, call_bind, htag, hroot, emit, h.device] using hgoes

/-- What follows in a document that is being written. -/
theorem Goes.bind {α β : Type} {call : Writing α} {next : α → Writing β}
    (h : Goes w (w.call call).2)
    (hnext : ∀ a w', w.call call = (.ok a, w') → Goes w w' → Goes w' (w'.call (next a)).2) :
    Goes w (w.call (call >>= next)).2 := by
  rw [call_bind]
  rcases hcall : w.call call with ⟨fault | a, w'⟩
  · rw [hcall] at h
    exact h
  · rw [hcall] at h
    have hgoes := hnext a w' hcall h
    exact ⟨hgoes.orderly, hgoes.stage.trans h.stage⟩

/-- What needs a document that is being written changes nothing without one. -/
theorem Orderly.requireDocument {β : Type} (h : w.Orderly) (name : String) {next : Unit → Writing β}
    (hnext : w.stage = .writing → Goes w (w.call (next ())).2) :
    Goes w (w.call (requireDocument name >>= next)).2 := by
  by_cases hs : w.stage = .writing
  · simpa [Writer.requireDocument, call_bind, hs] using hnext hs
  · simpa [Writer.requireDocument, call_bind, hs, misuse] using (⟨h, rfl⟩ : Goes w w)

theorem Orderly.startElement (h : w.Orderly) {name : String} (hname : isName name = true) :
    Goes w (w.call (startElement name)).2 := by
  refine h.requireDocument _ fun hs => (h.flush hs _).bind fun _ w' _ hgoes => ?_
  refine ⟨hgoes.orderly.withPending fun tag htag => ?_, rfl⟩
  obtain rfl := Option.some.inj htag
  exact ⟨hname, nofun, List.nodup_nil⟩

theorem Orderly.endElement (h : w.Orderly) : Goes w (w.call endElement).2 := by
  refine h.requireDocument _ fun hs => ?_
  rw [call_bind, call_get]
  by_cases hattr : w.openAttribute.isSome = true
  · simpa [hattr, call_bind, misuse] using (⟨h, rfl⟩ : Goes w w)
  · simp only [hattr]
    refine (h.flush hs _).bind fun _ w' _ hgoes => ?_
    rw [call_bind, call_get]
    dsimp only
    cases hopen : w'.openElements with
    | nil => exact ⟨hgoes.orderly, rfl⟩
    | cons name rest =>
      obtain ⟨g, hw⟩ := hgoes.orderly.hasWritten (hgoes.stage.trans hs)
      obtain ⟨g', hwrote⟩ := hw.endTag hopen
      have hstage : w'.stage ≠ .idle := by
        rw [hgoes.stage, hs]
        decide
      have hclosed := hwrote.orderly hgoes.orderly rfl rfl rfl rfl hstage
      simpa [hopen, call_bind, emitEndTag, emit, hgoes.orderly.device] using
        (⟨hclosed, rfl⟩ : Goes w' _)

theorem Orderly.endElements (h : w.Orderly) (n : Nat) : Goes w (w.call (endElements n)).2 := by
  induction n generalizing w with
  | zero => exact ⟨h, rfl⟩
  | succ n ih => exact h.endElement.bind fun _ w' _ hgoes => ih hgoes.orderly

theorem Orderly.writeText (h : w.Orderly) (text : String) :
    Goes w (w.call (writeText text)).2 := by
  refine h.requireDocument _ fun hs => (h.flush hs _).bind fun _ w' _ hgoes => ?_
  have hsame : Goes w' w' := ⟨hgoes.orderly, rfl⟩
  rw [call_bind, call_get]
  by_cases hopen : w'.openElements = []
  · simpa [hopen, call_bind, misuse] using hsame
  · by_cases hlegal : legal text = true
    · by_cases hempty : text.isEmpty = true
      · simpa [hopen, call_bind, textFault?, hlegal, hempty] using hsame
      · obtain ⟨g, hw⟩ := hgoes.orderly.hasWritten (hgoes.stage.trans hs)
        have hstage : w'.stage ≠ .idle := by
          rw [hgoes.stage, hs]
          decide
        have hwrote := (hw.text hopen hlegal).orderly hgoes.orderly rfl rfl rfl rfl hstage
        simpa [hopen, call_bind, textFault?, hlegal, hempty, emit, hgoes.orderly.device] using
          (⟨hwrote, rfl⟩ : Goes w' _)
    · simpa [hopen, call_bind, textFault?, hlegal, refuse] using hsame

/-! ## Attributes -/

/-- A start tag does not take a name twice. -/
theorem Orderly.writeAttribute (h : w.Orderly) {name : String} (hname : isName name = true)
    (value : String) : Goes w (w.call (writeAttribute name value)).2 := by
  have hsame : Goes w w := ⟨h, rfl⟩
  unfold Writer.writeAttribute requireTag
  rw [call_bind, call_bind, call_get]
  cases hp : w.pending with
  | none => simpa [hp, misuse] using hsame
  | some tag =>
    by_cases hany : (tag.attributes.any fun a => a.name == name) = true
    · simpa [hp, hany, call_bind, misuse] using hsame
    · have hnamed := h.pending tag hp
      have hnew : name ∉ tag.attributes.map (·.name) := by
        simpa [List.any_eq_true] using hany
      have hadded : PendingTag.Named
          { tag with attributes := tag.attributes ++ [⟨name, value⟩] } := by
        refine ⟨hnamed.name, ?_, nodup_names_append hnamed.nodup hnew⟩
        rw [List.forall_mem_append, List.forall_mem_singleton]
        exact ⟨hnamed.attributes, hname⟩
      have hgoes : Orderly
          { w with pending := some { tag with attributes := tag.attributes ++ [⟨name, value⟩] } } :=
        h.withPending fun t ht => Option.some.inj ht ▸ hadded
      simpa [hp, hany, call_bind] using (⟨hgoes, rfl⟩ : Goes w _)

theorem Orderly.startAttribute (h : w.Orderly) {name : String} (hname : isName name = true) :
    Goes w (w.call (startAttribute name)).2 := by
  have hsame : Goes w w := ⟨h, rfl⟩
  have hopened : Goes w { w with openAttribute := some { name := name } } :=
    ⟨h.withAttribute fun a ha => Option.some.inj ha ▸ hname, rfl⟩
  unfold Writer.startAttribute requireTag
  rw [call_bind, call_discard, call_bind, call_get]
  cases hp : w.pending with
  | none => simpa [hp, misuse, Except.map] using hsame
  | some tag =>
    by_cases hattr : w.openAttribute.isSome = true
    · simpa [hp, hattr, call_bind, Except.map, misuse] using hsame
    · simpa [hp, hattr, call_bind, Except.map] using hopened

theorem Orderly.writeBase64 (h : w.Orderly) (data : Bytes) (start : Int) (length : Option Int) :
    Goes w (w.call (writeBase64 data start length)).2 := by
  unfold Writer.writeBase64
  rw [call_bind, call_get]
  dsimp only
  cases ha : w.openAttribute with
  | none => exact ⟨h, rfl⟩
  | some a =>
    exact ⟨h.withAttribute fun b hb => Option.some.inj hb ▸ h.openAttribute a ha, rfl⟩

theorem Orderly.endAttribute (h : w.Orderly) : Goes w (w.call endAttribute).2 := by
  unfold Writer.endAttribute
  rw [call_bind, call_get]
  dsimp only
  cases ha : w.openAttribute with
  | none => exact ⟨h, rfl⟩
  | some a =>
    have hended : Goes w { w with openAttribute := none } := ⟨h.withAttribute nofun, rfl⟩
    have hmodified : Goes w (w.call (modify fun w => { w with openAttribute := none })).2 := hended
    exact hmodified.bind fun _ w' _ hgoes =>
      hgoes.orderly.writeAttribute (h.openAttribute a ha) _

/-! ## The start and the end of a document -/

theorem Orderly.startDocument (h : w.Orderly) : (w.call startDocument).2.Orderly := by
  unfold Writer.startDocument
  rw [call_bind, call_get]
  by_cases hs : w.stage = .idle
  · obtain ⟨htokens, hopen⟩ := h.idle hs
    have hwrote : HasWritten { w with
        stage := .writing, rootClosed := false, tokens := #[.declaration w.label] } {} := by
      refine ⟨?_, hopen, ?_, .before⟩
      · simp [Growing.tokens, Growing.outerTokens, forestTokens]
      · simp [Growing.tokens, Growing.outerTokens, forestTokens]
    have hstarted := hwrote.orderly h rfl rfl rfl rfl (by simp)
    simpa [hs, call_bind, h.label, usable_utf8.legal, usable_utf8.charset, usable_utf8.markup, emit,
      h.device, htokens] using hstarted
  · simpa [hs, call_bind, misuse] using h

/-- A document that is finished has its root, and the root is closed. -/
theorem Orderly.endDocument (h : w.Orderly) :
    (w.call endDocument).2.Orderly ∧ ((w.call endDocument).1 = .ok () →
      (w.call endDocument).2.stage = .finished ∧ (w.call endDocument).2.rootClosed = true) := by
  unfold Writer.endDocument Writer.requireDocument
  by_cases hs : w.stage = .writing
  · have hgoes : Goes w (w.call (Writer.endElements w.depth)).2 := h.endElements w.depth
    rcases hcall : w.call (Writer.endElements w.depth) with ⟨fault | _, w'⟩
    · rw [hcall] at hgoes
      simpa [call_bind, hs, hcall] using hgoes.orderly
    · rw [hcall] at hgoes
      change Goes w w' at hgoes
      obtain ⟨g, hw⟩ := hgoes.orderly.hasWritten (hgoes.stage.trans hs)
      have hfinished : HasWritten { w' with stage := .finished } g :=
        ⟨hw.tokens, hw.openElements, hw.wellFormed, hw.oneRoot⟩
      have horderly := hfinished.orderly hgoes.orderly rfl rfl rfl rfl (by simp)
      by_cases hroot : w'.rootClosed = true
      · simpa [call_bind, hs, hcall, hroot, hgoes.orderly.device] using horderly
      · simpa [call_bind, hs, hcall, hroot, refuse] using horderly
  · simpa [call_bind, hs, misuse] using h

/-! ## Calls in a row -/

/-- **Every call but `release` keeps a writer in order**, whether it succeeds or not. -/
theorem Orderly.call (h : w.Orderly) {c : Call} (hname : ∀ n, c.name? = some n → isName n = true)
    (hc : c ≠ .release) : (w.call c.act).2.Orderly := by
  cases c with
  | enter => exact h
  | startDocument => exact h.startDocument
  | endDocument => exact h.endDocument.1
  | startElement name => exact (h.startElement (hname name rfl)).orderly
  | endElement => exact h.endElement.orderly
  | writeAttribute name value => exact (h.writeAttribute (hname name rfl) value).orderly
  | startAttribute name => exact (h.startAttribute (hname name rfl)).orderly
  | writeBase64 data start length => exact (h.writeBase64 data start length).orderly
  | endAttribute => exact h.endAttribute.orderly
  | writeText text => exact (h.writeText text).orderly
  | release => exact absurd rfl hc

theorem orderly_afterCalls (h : w.Orderly) (calls : List Call)
    (hnames : ∀ c ∈ calls, ∀ n, c.name? = some n → isName n = true)
    (hcalls : .release ∉ calls) : (w.afterCalls calls).Orderly := by
  induction calls generalizing w with
  | nil => exact h
  | cons c calls ih =>
    rw [List.mem_cons, not_or] at hcalls
    rw [List.forall_mem_cons] at hnames
    exact ih (h.call hnames.1 fun hc => hcalls.1 hc.symm) hnames.2 hcalls.2

/-- What was written is the document of its root once that is closed. -/
theorem HasWritten.writes {root : Tree} (h : w.HasWritten ⟨[root], []⟩) (hroot : root.IsElement)
    (hlabel : w.label = "utf-8") : Writes root w.bytes := by
  have htokens : Growing.tokens ⟨[root], []⟩ = root.tokens := by
    simp [Growing.tokens, Growing.outerTokens, forestTokens_singleton]
  have hwell := h.wellFormed
  have hwritten := h.tokens
  rw [htokens] at hwell hwritten
  rw [hlabel] at hwritten
  refine ⟨hroot, hwell, ?_⟩
  rw [bytes_eq, encode, hlabel, usable_utf8.charset, hwritten]
  rfl

/-- What a writer in order has written, once the root is closed, is a document. -/
theorem Orderly.isDocument (h : w.Orderly) (hs : w.stage = .finished)
    (hroot : w.rootClosed = true) : IsDocument w.bytes := by
  obtain ⟨g, hw⟩ := h.started (by rw [hs]; decide)
  have hone := hw.oneRoot
  rw [hroot] at hone
  cases hone with
  | behind name attributes ts => exact ⟨_, hw.writes trivial h.label⟩

/-- The writer of a document that is not started, behind calls. -/
def behind (calls : List Call) : Writer :=
  afterCalls { label := "utf-8" } calls

/-- **A document that is finished behind calls in any order is complete and well formed**, however
many of the calls failed. -/
theorem endDocument_isDocument (calls : List Call)
    (hnames : ∀ c ∈ calls, ∀ n, c.name? = some n → isName n = true) (hcalls : .release ∉ calls)
    (h : ((behind calls).call endDocument).1 = .ok ()) :
    IsDocument ((behind calls).call endDocument).2.bytes := by
  obtain ⟨horderly, hended⟩ := (orderly_afterCalls orderly_blank calls hnames hcalls).endDocument
  obtain ⟨hs, hroot⟩ := hended h
  exact horderly.isDocument hs hroot

/-- Calls most of which fail: an attribute twice, one that comes too late, text outside, a start tag
that is lost, an end tag too many, a second root. -/
def strayCalls : List Call :=
  [.startElement "early", .startDocument, .startDocument, .writeText "outside", .endElement,
    .startElement "hive", .writeAttribute "n" "1", .writeAttribute "n" "2", .startAttribute "d",
    .endElement, .writeBase64 [0, 255], .endAttribute, .startElement "lost",
    .writeAttribute "v" "\x00", .writeText "a", .writeAttribute "late" "", .writeText "b",
    .startElement "node", .endElement, .endElement, .endElement, .startElement "second",
    .writeAttribute "n" "3", .endElement]

theorem endDocument_isDocument_strayCalls :
    (∀ c ∈ strayCalls, ∀ n, c.name? = some n → isName n = true) ∧ .release ∉ strayCalls ∧
      ((behind strayCalls).call endDocument).1 = .ok () ∧
      IsDocument ((behind strayCalls).call endDocument).2.bytes ∧
      ((behind strayCalls).call endDocument).2.tokens.toList = [.declaration "utf-8",
        .startTag "hive" [⟨"n", "1"⟩, ⟨"d", "AP8="⟩], .text "b", .startTag "node" [],
        .endTag "node", .endTag "hive"] :=
  have hnames : ∀ c ∈ strayCalls, ∀ n, c.name? = some n → isName n = true := by decide +kernel
  have hcalls : .release ∉ strayCalls := by decide
  have hended : ((behind strayCalls).call endDocument).1 = .ok () := by decide +kernel
  ⟨hnames, hcalls, hended, endDocument_isDocument strayCalls hnames hcalls hended,
    by decide +kernel⟩

end Writer

end HiveDump
