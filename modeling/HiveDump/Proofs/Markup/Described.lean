import HiveDump.Markup.Outline
import HiveDump.Proofs.Markup.AnyOrder
import HiveDump.Proofs.Markup.Reading

/-!
# Documents that say what was called for

Calls that all succeed write the document of the tree they describe. A writer holds a start tag back
until it is complete; what it has written, with the start tag that it holds back, are the trees that
the calls in front describe (`Writer.Describes`). Each call keeps this, and the end of the document
leaves the tree of its root, which parses back.

Results:
* `Describes.flush`: writing the start tag that is held back describes nothing new;
* **`Describes.call`**: what a writer holds behind a call is what the call describes;
* **`parses_to_described`**: the bytes of a document parse to the tree that its calls describe.
-/

namespace HiveDump

open Markup Markup.Tree

namespace Markup.Tree.Growing

/-- With an element whose start tag is held back, if there is one. -/
def holding (g : Growing) : Option PendingTag → Growing
  | none => g
  | some tag => g.opened tag.name tag.attributes

theorem outer_holding (g : Growing) (pending : Option PendingTag) :
    (g.holding pending).outer.length = g.outer.length + if pending.isSome then 1 else 0 := by
  cases pending <;> rfl

/-- Closing one element more first changes nothing once all are closed. -/
theorem finished_ended (g : Growing) : g.ended.finished = g.finished := by
  obtain ⟨here, _ | ⟨⟨name, attributes, before⟩, outer⟩⟩ := g <;> rfl

theorem finished_of_outer {g : Growing} (h : g.outer = []) : g.finished = g.here := by
  rw [finished, h]
  rfl

end Markup.Tree.Growing

namespace Writer

/-- Whether a writer holds what calls describe. -/
structure Describes (w : Writer) (o : Outline) : Prop where
  orderly : w.Orderly
  stage : w.stage = .writing
  trees : ∃ g, w.HasWritten g ∧ o.trees = g.holding w.pending
  gathered : o.gathered = w.openAttribute.map fun a => (a.name, a.content)

variable {w w' : Writer} {o : Outline}

/-- The start tag that is held back describes nothing new when it is written. -/
theorem Describes.flush (h : w.Describes o) {name : String}
    (hcall : w.call (flush name) = (.ok (), w')) : w'.Describes o ∧ w'.pending = none := by
  obtain ⟨g, hwritten, htrees⟩ := h.trees
  have hgoes := h.orderly.flush h.stage name
  rw [hcall] at hgoes
  cases hp : w.pending with
  | none =>
    have hsame : w.call (Writer.flush name) = (.ok (), w) := by simp [Writer.flush, call_bind, hp]
    cases hsame.symm.trans hcall
    exact ⟨h, hp⟩
  | some tag =>
    by_cases hattr : w.openAttribute.isSome = true
    · simp [Writer.flush, call_bind, hp, hattr, misuse] at hcall
    · cases htag : tagFault? tag with
      | some reason => simp [Writer.flush, call_bind, hp, hattr, refuse, htag] at hcall
      | none =>
        by_cases hroot : w.rootClosed = true
        · simp [Writer.flush, call_bind, hp, hattr, refuse, htag, hroot] at hcall
        · have hopen : w.rootClosed = false := Bool.eq_false_iff.mpr hroot
          have hwrote := hwritten.startTag hopen
            (wellFormed_of_tagFault? (h.orderly.pending tag hp) htag)
          have hafter : w.call (Writer.flush name) = (.ok (), { w with
              pending := none
              tokens := w.tokens.push (.startTag tag.name tag.attributes)
              openElements := tag.name :: w.openElements }) := by
            simp [Writer.flush, call_bind, hp, hattr, htag, hroot, emit, h.orderly.device]
          cases hafter.symm.trans hcall
          refine ⟨⟨hgoes.orderly, h.stage, ⟨_, ⟨hwrote.tokens, hwrote.openElements,
            hwrote.wellFormed, hwrote.oneRoot⟩, ?_⟩, h.gathered⟩, rfl⟩
          rw [htrees, hp]
          rfl

/-- Without a start tag that is held back everything described is written. -/
theorem Describes.hasWritten (h : w.Describes o) (hp : w.pending = none) :
    w.HasWritten o.trees := by
  obtain ⟨g, hwritten, htrees⟩ := h.trees
  rw [hp] at htrees
  rw [htrees]
  exact hwritten

/-- The open elements of a writer are those described. -/
theorem Describes.depth (h : w.Describes o) : w.depth = o.trees.outer.length := by
  obtain ⟨g, hwritten, htrees⟩ := h.trees
  rw [htrees, Growing.outer_holding, Writer.depth, hwritten.openElements, List.length_map]

theorem call_emit (h : w.device = .working) (call : String) (t : Token) :
    w.call (emit call t) = (.ok (), w.wrote t) := by
  simp [emit, call_bind, h, wrote]

theorem call_emitEndTag (h : w.device = .working) (call name : String) :
    w.call (emitEndTag call name) = (.ok (), w.wrote (.endTag name)) := by
  simp [emitEndTag, call_bind, h, call_emit h]

theorem call_requireDocument (hs : w.stage = .writing) (name : String) :
    w.call (requireDocument name) = (.ok (), w) := by
  simp [requireDocument, call_bind, hs]

/-! ## Elements and text -/

theorem Describes.startElement (h : w.Describes o) {name : String} (hname : isName name = true)
    (hcall : w.call (startElement name) = (.ok (), w')) :
    w'.Describes (o.take (.startElement name)) := by
  have hgoes := h.orderly.startElement hname
  rw [hcall] at hgoes
  unfold Writer.startElement at hcall
  obtain ⟨_, w₁, hrequire, hcall⟩ := of_call_bind hcall
  rw [call_requireDocument h.stage] at hrequire
  cases hrequire
  obtain ⟨_, w₂, hflush, hcall⟩ := of_call_bind hcall
  obtain ⟨hdescribes, hp⟩ := h.flush hflush
  have hwritten := hdescribes.hasWritten hp
  cases hcall
  exact ⟨hgoes.orderly, hdescribes.stage, ⟨o.trees, ⟨hwritten.tokens, hwritten.openElements,
    hwritten.wellFormed, hwritten.oneRoot⟩, rfl⟩, hdescribes.gathered⟩

/-- An element that was described as open is closed. -/
theorem Describes.endElement (h : w.Describes o) (hcall : w.call endElement = (.ok (), w')) :
    w'.Describes (o.take .endElement) ∧ o.trees.outer.length = o.trees.ended.outer.length + 1 := by
  have hgoes := h.orderly.endElement
  rw [hcall] at hgoes
  unfold Writer.endElement at hcall
  obtain ⟨_, w₁, hrequire, hcall⟩ := of_call_bind hcall
  rw [call_requireDocument h.stage] at hrequire
  cases hrequire
  rw [call_bind, call_get] at hcall
  by_cases hattr : w.openAttribute.isSome = true
  · simp [hattr, misuse] at hcall
  · simp only [hattr] at hcall
    obtain ⟨_, w₂, hflush, hcall⟩ := of_call_bind hcall
    obtain ⟨hdescribes, hp⟩ := h.flush hflush
    have hwritten := hdescribes.hasWritten hp
    have hopen := hwritten.openElements
    rw [call_bind, call_get] at hcall
    rcases htrees : o.trees.outer with _ | ⟨⟨name, attributes, before⟩, outer⟩
    · rw [htrees, List.map_nil] at hopen
      simp [hopen, misuse] at hcall
    · rw [htrees, List.map_cons] at hopen
      have hclosed := hwritten.closed htrees
      simp only [hopen, call_bind, call_set] at hcall
      rw [call_emitEndTag (by exact hdescribes.orderly.device)] at hcall
      cases hcall
      have hended : o.trees.ended = ⟨before ++ [.element name attributes o.trees.here], outer⟩ := by
        rw [Growing.ended, htrees]
      refine ⟨⟨hgoes.orderly, hdescribes.stage, ⟨o.trees.ended, ?_, ?_⟩, hdescribes.gathered⟩, ?_⟩
      · rw [hended]
        exact ⟨hclosed.tokens, hclosed.openElements, hclosed.wellFormed, hclosed.oneRoot⟩
      · change o.trees.ended = o.trees.ended.holding w₂.pending
        rw [hp, Growing.holding]
      · rw [hended, List.length_cons]

theorem Describes.writeText (h : w.Describes o) {text : String}
    (hcall : w.call (writeText text) = (.ok (), w')) : w'.Describes (o.take (.writeText text)) := by
  have hgoes := h.orderly.writeText text
  rw [hcall] at hgoes
  unfold Writer.writeText at hcall
  obtain ⟨_, w₁, hrequire, hcall⟩ := of_call_bind hcall
  rw [call_requireDocument h.stage] at hrequire
  cases hrequire
  obtain ⟨_, w₂, hflush, hcall⟩ := of_call_bind hcall
  obtain ⟨hdescribes, hp⟩ := h.flush hflush
  have hwritten := hdescribes.hasWritten hp
  by_cases hopen : w₂.openElements = []
  · simp [call_bind, hopen, misuse] at hcall
  · by_cases hlegal : legal text = true
    · have hnone : textFault? text = none := if_pos hlegal
      have hempty? : w₂.openElements.isEmpty = false := by simpa using hopen
      simp only [call_bind, call_get, hempty?, hnone, Bool.false_eq_true, if_false] at hcall
      by_cases hempty : text.isEmpty = true
      · rw [Outline.take, if_pos hempty]
        simp only [hempty, Bool.not_true, Bool.false_eq_true, if_false] at hcall
        cases hcall
        exact hdescribes
      · rw [Outline.take, if_neg hempty]
        have hwrote := hwritten.text hopen hlegal
        rw [if_pos (by simpa using hempty), call_emit hdescribes.orderly.device] at hcall
        cases hcall
        refine ⟨hgoes.orderly, hdescribes.stage, ⟨o.trees.add [.text text], ⟨hwrote.tokens,
          hwrote.openElements, hwrote.wellFormed, hwrote.oneRoot⟩, ?_⟩, hdescribes.gathered⟩
        change o.trees.add [.text text] = (o.trees.add [.text text]).holding w₂.pending
        rw [hp, Growing.holding]
    · simp [call_bind, hopen, textFault?, hlegal, refuse] at hcall

/-! ## Attributes -/

theorem Describes.writeAttribute (h : w.Describes o) {name value : String}
    (hname : isName name = true) (hcall : w.call (writeAttribute name value) = (.ok (), w')) :
    w'.Describes (o.take (.writeAttribute name value)) := by
  have hgoes := h.orderly.writeAttribute hname value
  rw [hcall] at hgoes
  obtain ⟨g, hwritten, htrees⟩ := h.trees
  cases hp : w.pending with
  | none => simp [Writer.writeAttribute, requireTag, call_bind, hp, misuse] at hcall
  | some tag =>
    by_cases hany : ∃ a ∈ tag.attributes, a.name = name
    · simp [Writer.writeAttribute, requireTag, call_bind, hp, hany, misuse] at hcall
    · have hafter : w.call (Writer.writeAttribute name value) = (.ok (), { w with
          pending := some { tag with attributes := tag.attributes ++ [⟨name, value⟩] } }) := by
        simp [Writer.writeAttribute, requireTag, call_bind, hp, hany]
      cases hafter.symm.trans hcall
      refine ⟨hgoes.orderly, h.stage, ⟨g, ⟨hwritten.tokens, hwritten.openElements,
        hwritten.wellFormed, hwritten.oneRoot⟩, ?_⟩, h.gathered⟩
      change o.trees.withAttribute ⟨name, value⟩ = _
      rw [htrees, hp]
      rfl

/-- The open attribute is no part of the trees. -/
theorem Describes.withAttribute (h : w.Describes o) {open? : Option PendingAttribute}
    (hname : ∀ a, open? = some a → isName a.name = true) :
    Describes { w with openAttribute := open? }
      { o with gathered := open?.map fun a => (a.name, a.content) } := by
  obtain ⟨g, hwritten, htrees⟩ := h.trees
  exact ⟨h.orderly.withAttribute hname, h.stage, ⟨g, ⟨hwritten.tokens, hwritten.openElements,
    hwritten.wellFormed, hwritten.oneRoot⟩, htrees⟩, rfl⟩

theorem Describes.startAttribute (h : w.Describes o) {name : String} (hname : isName name = true)
    (hcall : w.call (startAttribute name) = (.ok (), w')) :
    w'.Describes (o.take (.startAttribute name)) := by
  cases hp : w.pending with
  | none =>
    simp [Writer.startAttribute, requireTag, call_bind, call_discard, hp, misuse,
      Except.map] at hcall
  | some tag =>
    by_cases hattr : w.openAttribute.isSome = true
    · simp [Writer.startAttribute, requireTag, call_bind, call_discard, hp, hattr, misuse,
        Except.map] at hcall
    · have hafter : w.call (Writer.startAttribute name) =
          (.ok (), { w with openAttribute := some { name := name } }) := by
        simp [Writer.startAttribute, requireTag, call_bind, call_discard, hp, hattr, Except.map]
      cases hafter.symm.trans hcall
      have hopened : Describes { w with openAttribute := some { name := name } }
          { o with gathered := some (name, []) } :=
        h.withAttribute fun a ha => Option.some.inj ha ▸ hname
      exact hopened

theorem Describes.writeBase64 (h : w.Describes o) {data : Bytes} {start : Int}
    {length : Option Int} (hcall : w.call (writeBase64 data start length) = (.ok (), w')) :
    w'.Describes (o.take (.writeBase64 data start length)) := by
  unfold Writer.writeBase64 at hcall
  rw [call_bind, call_get] at hcall
  dsimp only at hcall
  cases ha : w.openAttribute with
  | none =>
    rw [ha] at hcall
    cases hcall
  | some a =>
    rw [ha] at hcall
    cases hcall
    have hgathered : o.gathered = some (a.name, a.content) := by
      rw [h.gathered, ha]
      rfl
    simp only [Outline.take, hgathered]
    exact h.withAttribute fun b hb => Option.some.inj hb ▸ h.orderly.openAttribute a ha

theorem Describes.endAttribute (h : w.Describes o) (hcall : w.call endAttribute = (.ok (), w')) :
    w'.Describes (o.take .endAttribute) := by
  unfold Writer.endAttribute at hcall
  rw [call_bind, call_get] at hcall
  dsimp only at hcall
  cases ha : w.openAttribute with
  | none =>
    rw [ha] at hcall
    cases hcall
  | some a =>
    rw [ha] at hcall
    have hgathered : o.gathered = some (a.name, a.content) := by
      rw [h.gathered, ha]
      rfl
    have hended : Describes { w with openAttribute := none } { o with gathered := none } :=
      h.withAttribute nofun
    simp only [Outline.take, hgathered]
    exact hended.writeAttribute (h.orderly.openAttribute a ha) hcall

/-! ## The start and the end of a document -/

theorem describes_startDocument
    (hcall : ({ label := "utf-8" } : Writer).call startDocument = (.ok (), w')) :
    w'.Describes {} := by
  have horderly := orderly_blank.startDocument
  rw [hcall] at horderly
  have hafter : ({ label := "utf-8" } : Writer).call Writer.startDocument =
      (.ok (), { label := "utf-8", stage := .writing, tokens := #[.declaration "utf-8"] }) := by
    simp [Writer.startDocument, call_bind, usable_utf8.legal, usable_utf8.charset,
      usable_utf8.markup, emit]
  cases hafter.symm.trans hcall
  refine ⟨horderly, rfl, ⟨{}, ⟨?_, rfl, ?_, .before⟩, rfl⟩, rfl⟩
  · simp [Growing.tokens, Growing.outerTokens, forestTokens]
  · simp [Growing.tokens, Growing.outerTokens, forestTokens]

/-- Elements that are closed one by one leave the trees that are there once all are closed. -/
theorem Describes.endElements (h : w.Describes o) {n : Nat}
    (hcall : w.call (endElements n) = (.ok (), w')) :
    ∃ o', w'.Describes o' ∧ o'.trees.finished = o.trees.finished ∧
      o.trees.outer.length = o'.trees.outer.length + n := by
  induction n generalizing w o with
  | zero =>
    cases hcall
    exact ⟨o, h, rfl, rfl⟩
  | succ n ih =>
    obtain ⟨_, w₁, hend, hcall⟩ := of_call_bind hcall
    obtain ⟨hdescribes, hlength⟩ := h.endElement hend
    obtain ⟨o', hdescribes', hfinished, hlength'⟩ := ih hdescribes hcall
    refine ⟨o', hdescribes', hfinished.trans (Growing.finished_ended o.trees), ?_⟩
    rw [hlength, show o.trees.ended.outer.length = _ from hlength', Nat.add_assoc]

/-- The document that is finished is that of the one tree that is left once all elements are
closed. -/
theorem Describes.endDocument (h : w.Describes o) (hcall : w.call endDocument = (.ok (), w')) :
    w'.stage = .finished ∧ w'.pending = none ∧
      ∃ root, o.trees.finished = [root] ∧ Writes root w'.bytes := by
  have hended := h.orderly.endDocument.2
  rw [hcall] at hended
  obtain ⟨hstage, hroot⟩ := hended rfl
  unfold Writer.endDocument at hcall
  obtain ⟨_, w₁, hrequire, hcall⟩ := of_call_bind hcall
  rw [call_requireDocument h.stage] at hrequire
  cases hrequire
  rw [call_bind, call_get] at hcall
  obtain ⟨_, w₂, hend, hcall⟩ := of_call_bind hcall
  obtain ⟨o', hdescribes, hfinished, hlength⟩ := h.endElements hend
  have hnone : o'.trees.outer = [] := by
    rw [h.depth] at hlength
    exact List.eq_nil_of_length_eq_zero (by omega)
  have hp : w₂.pending = none := by
    obtain ⟨g, -, htrees⟩ := hdescribes.trees
    have houter := Growing.outer_holding g w₂.pending
    rw [← htrees, hnone] at houter
    cases hp : w₂.pending with
    | none => rfl
    | some tag => simp [hp] at houter
  have hwritten := hdescribes.hasWritten hp
  by_cases hclosed : w₂.rootClosed = true
  · simp only [call_bind, call_modify, call_get, hclosed, hdescribes.orderly.device, Bool.not_true,
      Bool.false_eq_true, if_false] at hcall
    cases hcall
    have hone := hwritten.oneRoot
    rw [hclosed] at hone
    rw [← hfinished, Growing.finished_of_outer hnone]
    generalize o'.trees = g at hone hwritten
    cases hone with
    | behind name attributes ts =>
      have hfinal : HasWritten { w₂ with stage := .finished }
          ⟨[.element name attributes ts], []⟩ :=
        ⟨hwritten.tokens, hwritten.openElements, hwritten.wellFormed, hwritten.oneRoot⟩
      rw [hclosed] at hfinal
      exact ⟨rfl, hp, _, rfl, hfinal.writes trivial hdescribes.orderly.label⟩
  · simp [hclosed, call_bind, refuse] at hcall

/-! ## Calls in a row -/

/-- Whether a writer has no document any more that can be written to. -/
structure Left (w : Writer) : Prop where
  stage : w.stage ≠ .writing
  pending : w.pending = none

theorem Left.requireDocument {β : Type} (h : w.Left) (name : String) (next : Unit → Writing β) :
    w.call (requireDocument name >>= next) = (.error (.misuse (.notStarted name)), w) := by
  simp [Writer.requireDocument, call_bind, h.stage, misuse]

/-- It has none behind further calls, unless they start another. -/
theorem Left.call (h : w.Left) {c : Call} (hc : c ≠ .startDocument)
    (hcall : w.call c.act = (.ok (), w')) : w'.Left := by
  cases c with
  | startDocument => exact absurd rfl hc
  | enter =>
    cases hcall
    exact h
  | endDocument => cases (h.requireDocument _ _).symm.trans hcall
  | startElement name => cases (h.requireDocument _ _).symm.trans hcall
  | endElement => cases (h.requireDocument _ _).symm.trans hcall
  | writeText text => cases (h.requireDocument _ _).symm.trans hcall
  | writeAttribute name value =>
    change w.call (Writer.writeAttribute name value) = _ at hcall
    simp [Writer.writeAttribute, requireTag, call_bind, h.pending, misuse] at hcall
  | startAttribute name =>
    change w.call (Writer.startAttribute name) = _ at hcall
    simp [Writer.startAttribute, requireTag, call_bind, call_discard, h.pending, misuse,
      Except.map] at hcall
  | writeBase64 data start length =>
    change w.call (Writer.writeBase64 data start length) = _ at hcall
    unfold Writer.writeBase64 at hcall
    rw [call_bind, call_get] at hcall
    dsimp only at hcall
    cases ha : w.openAttribute with
    | none =>
      rw [ha] at hcall
      cases hcall
    | some a =>
      rw [ha] at hcall
      cases hcall
      exact ⟨h.stage, h.pending⟩
  | endAttribute =>
    change w.call Writer.endAttribute = _ at hcall
    cases ha : w.openAttribute with
    | none => simp [Writer.endAttribute, call_bind, ha, misuse] at hcall
    | some a =>
      simp [Writer.endAttribute, Writer.writeAttribute, requireTag, call_bind, ha, h.pending,
        misuse] at hcall
  | release =>
    change w.call Writer.release = _ at hcall
    have hstage := h.stage
    cases hs : w.stage with
    | writing => exact absurd hs hstage
    | idle | finished =>
      simp only [Writer.release, call_bind, call_get, hs] at hcall
      cases hcall
      exact h
    | unwritable =>
      simp only [Writer.release, call_bind, call_get, hs] at hcall
      cases hcall
      exact ⟨Stage.noConfusion, rfl⟩

/-- **What a writer holds behind a call** is what the call describes in addition; behind the end of
a document, or when it was let go, it has none. -/
theorem Describes.call (h : w.Describes o) {c : Call}
    (hname : ∀ n, c.name? = some n → isName n = true) (hc : c ≠ .startDocument)
    (hcall : w.call c.act = (.ok (), w')) : w'.Describes (o.take c) ∨ w'.Left := by
  cases c with
  | enter =>
    cases hcall
    exact .inl h
  | startDocument => exact absurd rfl hc
  | endDocument =>
    obtain ⟨hstage, hp, -⟩ := h.endDocument hcall
    exact .inr ⟨by rw [hstage]; decide, hp⟩
  | startElement name => exact .inl (h.startElement (hname name rfl) hcall)
  | endElement => exact .inl (h.endElement hcall).1
  | writeAttribute name value => exact .inl (h.writeAttribute (hname name rfl) hcall)
  | startAttribute name => exact .inl (h.startAttribute (hname name rfl) hcall)
  | writeBase64 data start length => exact .inl (h.writeBase64 hcall)
  | endAttribute => exact .inl (h.endAttribute hcall)
  | writeText text => exact .inl (h.writeText hcall)
  | release =>
    have hs := h.stage
    change w.call Writer.release = _ at hcall
    simp only [Writer.release, call_bind, call_get, hs] at hcall
    cases hcall
    exact .inr ⟨nofun, rfl⟩

theorem afterAll?_cons {c : Call} {calls : List Call}
    (h : w.afterAll? (c :: calls) = some w') :
    ∃ w₁, w.call c.act = (.ok (), w₁) ∧ w₁.afterAll? calls = some w' := by
  rw [afterAll?] at h
  rcases hcall : w.call c.act with ⟨fault | _, w₁⟩
  · rw [hcall] at h
    cases h
  · rw [hcall] at h
    exact ⟨w₁, rfl, h⟩

/-- A document that is no longer there is not finished. -/
theorem Left.afterAll? (h : w.Left) {calls : List Call} (honce : .startDocument ∉ calls) :
    w.afterAll? (calls ++ [.endDocument]) ≠ some w' := by
  intro hrun
  induction calls generalizing w with
  | nil =>
    obtain ⟨w₁, hcall, -⟩ := afterAll?_cons hrun
    cases (h.requireDocument _ _).symm.trans hcall
  | cons c calls ih =>
    rw [List.mem_cons, not_or] at honce
    obtain ⟨w₁, hcall, hrun⟩ := afterAll?_cons hrun
    exact ih (h.call (fun heq => honce.1 heq.symm) hcall) honce.2 hrun

theorem Describes.afterAll? (h : w.Describes o) {calls : List Call}
    (hnames : ∀ c ∈ calls, ∀ n, c.name? = some n → isName n = true)
    (honce : .startDocument ∉ calls) (hrun : w.afterAll? (calls ++ [.endDocument]) = some w') :
    ∃ root, (calls.foldl Outline.take o).trees.finished = [root] ∧ Writes root w'.bytes := by
  induction calls generalizing w o with
  | nil =>
    obtain ⟨w₁, hcall, hrun⟩ := afterAll?_cons hrun
    cases hrun
    exact (h.endDocument hcall).2.2
  | cons c calls ih =>
    rw [List.mem_cons, not_or] at honce
    obtain ⟨hname, hnames⟩ := List.forall_mem_cons.mp hnames
    obtain ⟨w₁, hcall, hrun⟩ := afterAll?_cons hrun
    rcases h.call hname (fun heq => honce.1 heq.symm) hcall with hdescribes | hleft
    · exact ih hdescribes hnames honce.2 hrun
    · exact absurd hrun (hleft.afterAll? honce.2)

/-- **The bytes of a document parse to the tree that its calls describe**: calls from the start to
the end of a document, all of which succeed. -/
theorem parses_to_described (calls : List Call)
    (hnames : ∀ c ∈ calls, ∀ n, c.name? = some n → isName n = true)
    (honce : .startDocument ∉ calls)
    (h : ({ label := "utf-8" } : Writer).afterAll? (.startDocument :: calls ++ [.endDocument]) =
      some w) :
    ∃ root, described calls = some root ∧ parse? w.bytes = some root := by
  obtain ⟨w₁, hstart, hrun⟩ := afterAll?_cons h
  obtain ⟨root, hfinished, hwrites⟩ := (describes_startDocument hstart).afterAll? hnames honce hrun
  refine ⟨root.joined, ?_, ?_⟩
  · rw [described, hfinished]
  · rw [hwrites.bytes]
    exact parse?_document hwrites.element hwrites.wellFormed

/-- Calls that write a value and a text of every sort: an attribute whose bytes come in pieces while
another is written, text in pieces, and elements that are open at the end. -/
def letterCalls : List Call :=
  [.enter, .startElement "letter", .startAttribute "seal", .writeBase64 [0, 1, 2, 3] 1 (some 2),
    .writeAttribute "to" "<&\">'\t\n\r é", .writeBase64 [255], .endAttribute, .writeText "",
    .writeText "a < b\r\n", .writeText "& c", .startElement "é", .writeAttribute "n" "", .endElement,
    .writeText "\t", .startElement "sign", .writeText "x]]>"]

/-- What they describe. -/
def letter : Tree :=
  .element "letter" [⟨"to", "<&\">'\t\n\r é"⟩, ⟨"seal", "AQL/"⟩]
    [.text "a < b\r\n& c", .element "é" [⟨"n", ""⟩] [], .text "\t",
      .element "sign" [] [.text "x]]>"]]

theorem parses_to_described_letter :
    (∀ c ∈ letterCalls, ∀ n, c.name? = some n → isName n = true) ∧ .startDocument ∉ letterCalls ∧
      ∃ w, ({ label := "utf-8" } : Writer).afterAll?
          (.startDocument :: letterCalls ++ [.endDocument]) = some w ∧
        described letterCalls = some letter ∧ parse? w.bytes = some letter := by
  have hnames : ∀ c ∈ letterCalls, ∀ n, c.name? = some n → isName n = true := by decide +kernel
  have honce : .startDocument ∉ letterCalls := by decide
  have hsome : (({ label := "utf-8" } : Writer).afterAll?
      (.startDocument :: letterCalls ++ [.endDocument])).isSome = true := by decide +kernel
  obtain ⟨w, hw⟩ := Option.isSome_iff_exists.mp hsome
  have hletter : described letterCalls = some letter := by rfl
  obtain ⟨root, hroot, hparse⟩ := parses_to_described letterCalls hnames honce hw
  rw [hletter] at hroot
  obtain rfl := Option.some.inj hroot
  exact ⟨hnames, honce, w, hw, hletter, hparse⟩

end Writer

end HiveDump
