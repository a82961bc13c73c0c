import HiveDump.Proofs.Markup.Started

/-!
# What calls lay down, on any device

What the calls of a writer have laid down is what was handed to its device, taken or held back, and
the start tag that still takes attributes. A call that succeeds lays down what it says, whatever the
writer was before and whatever its device does. For this only two things count: the open elements,
and whether the device would notice a further token (`Listens`).

Whether a call succeeds is known where the device works. A child can be started in an open element
exactly if the writer `TakesChild`: the document is being written, its root is open, no attribute is
begun, and the start tag that takes attributes can be written.

Results:
* `begins_startElement`, `of_writeAttribute`, **`closes_endElement`**: what successful calls lay
  down;
* **`TakesChild.startElement`**, `TakesChild.writeAttribute`, `TakesChild.endElement`: calls that
  succeed;
* `takesChild_of_startElement`: where a further child was started, the first one could be.
-/

namespace HiveDump.Writer

open Markup

variable {w w' : Writer} {name : String}

/-! ## What calls have laid down -/

/-- What the calls have laid down. -/
def laid (w : Writer) : List Token :=
  w.markup ++ w.pendingTokens

/-- Whether the device has not given out, if all start tags are written. -/
def Listens (w : Writer) : Prop :=
  w.pending = none → ∀ reason, w.device ≠ .failed reason

theorem laid_of_none (h : w.pending = none) : w.laid = w.markup := by
  simp [laid, pendingTokens, h]

theorem openNames_of_none (h : w.pending = none) : w.openNames = w.openElements := by
  simp [openNames, h]

theorem laid_of_some {tag : PendingTag} (h : w.pending = some tag) :
    w.laid = w.markup ++ [.startTag tag.name tag.attributes] := by
  simp [laid, pendingTokens, h]

theorem openNames_of_some {tag : PendingTag} (h : w.pending = some tag) :
    w.openNames = tag.name :: w.openElements := by
  simp [openNames, h]

/-- A token that was handed to the device without a fault; nothing else has changed. -/
structure Hands (t : Token) (w w' : Writer) : Prop where
  markup : w'.markup = w.markup ++ [t]
  stage : w'.stage = w.stage
  openElements : w'.openElements = w.openElements
  pending : w'.pending = w.pending
  openAttribute : w'.openAttribute = w.openAttribute
  rootClosed : w'.rootClosed = w.rootClosed
  device : ∀ reason, w'.device ≠ .failed reason

theorem hands_emit {t : Token} (h : w.call (emit name t) = (.ok (), w')) : Hands t w w' := by
  unfold emit at h
  rw [call_get_bind] at h
  cases hd : w.device with
  | working =>
    simp only [hd, call_modify, Prod.mk.injEq] at h
    obtain ⟨-, rfl⟩ := h
    exact ⟨by simp [Writer.markup, Device.held, hd], rfl, rfl, rfl, rfl, rfl, by simp⟩
  | lasting n =>
    cases n with
    | zero => simp [hd, call_bind, refuse] at h
    | succ n =>
      simp only [hd, call_modify, Prod.mk.injEq] at h
      obtain ⟨-, rfl⟩ := h
      exact ⟨by simp [Writer.markup, Device.held, hd], rfl, rfl, rfl, rfl, rfl, by simp⟩
  | full held =>
    simp only [hd, call_get_bind] at h
    split at h
    · rw [call_modify, Prod.mk.injEq] at h
      obtain ⟨-, rfl⟩ := h
      exact ⟨by simp [Writer.markup, Device.held, hd], rfl, rfl, rfl, rfl, rfl, by simp⟩
    · simp [call_bind, refuse] at h
  | failed reason => simp [hd, refuse] at h

theorem hands_emitEndTag {element : String} (h : w.call (emitEndTag name element) = (.ok (), w'))
    (hd : ∀ reason, w.device ≠ .failed reason) : Hands (.endTag element) w w' := by
  rw [emitEndTag, call_get_bind] at h
  cases hdevice : w.device with
  | failed reason => exact absurd hdevice (hd reason)
  | working | lasting _ | full _ =>
    rw [hdevice] at h
    exact hands_emit h

/-! ## Start tags -/

/-- Whether a child can be started in the innermost open element, as far as the writer is concerned
and not its device. -/
structure TakesChild (w : Writer) : Prop where
  stage : w.stage = .writing
  noAttribute : w.openAttribute = none
  rootOpen : w.rootClosed = false
  tag : ∀ tag, w.pending = some tag → tagFault? tag = none

/-- The start tag that takes attributes is written, if there is one; nothing else has changed. -/
structure Flushed (w w' : Writer) : Prop where
  markup : w'.markup = w.laid
  openElements : w'.openElements = w.openNames
  pending : w'.pending = none
  stage : w'.stage = w.stage
  openAttribute : w'.openAttribute = w.openAttribute
  rootClosed : w'.rootClosed = w.rootClosed
  listens : w.Listens → w'.Listens
  allowed : ∀ tag, w.pending = some tag →
    w.openAttribute = none ∧ w.rootClosed = false ∧ tagFault? tag = none

theorem flushed (h : w.call (flush name) = (.ok (), w')) : Flushed w w' := by
  unfold flush at h
  rw [call_get_bind] at h
  cases hp : w.pending with
  | none =>
    simp only [hp, call_pure, Prod.mk.injEq] at h
    obtain ⟨-, rfl⟩ := h
    exact ⟨(laid_of_none hp).symm, (openNames_of_none hp).symm, hp, rfl, rfl, rfl, id,
      by simp [hp]⟩
  | some tag =>
    simp only [hp] at h
    cases ho : w.openAttribute with
    | some a => simp [ho, misuse] at h
    | none =>
      cases hf : tagFault? tag with
      | some reason => simp [ho, hf, refuse, call_bind] at h
      | none =>
        cases hr : w.rootClosed with
        | true => simp [ho, hf, hr, call_bind, refuse] at h
        | false =>
          simp only [ho, hf, hr, Option.isSome_none, Bool.false_eq_true, if_false,
            call_set_bind] at h
          obtain ⟨_, v, hemit, hopened⟩ := of_call_bind h
          have hhands := hands_emit hemit
          rw [call_modify, Prod.mk.injEq] at hopened
          obtain ⟨-, rfl⟩ := hopened
          refine ⟨?_, ?_, hhands.pending, hhands.stage,
            hhands.openAttribute.trans ho.symm, hhands.rootClosed.trans hr.symm,
            fun _ _ => hhands.device, ?_⟩
          · rw [laid_of_some hp]
            exact hhands.markup
          · rw [openNames_of_some hp]
            exact congrArg _ hhands.openElements
          · intro other hother
            obtain rfl := Option.some.inj (hp.symm.trans hother)
            exact ⟨ho, hr, hf⟩

/-- Where a child can be started and the device works, the start tag is written. -/
theorem TakesChild.flush (h : w.TakesChild) (hd : w.device = .working) (name : String) :
    w.call (flush name) = (.ok (), w.settled) := by
  cases hp : w.pending with
  | none =>
    rw [settled_of_none hp]
    simp [Writer.flush, call_bind, hp]
  | some tag =>
    simp [Writer.flush, call_bind, hp, h.noAttribute, h.tag tag hp, h.rootOpen, emit, hd, settled,
      pendingTokens, openNames]

/-! ## Elements -/

theorem stage_of_requireDocument {β : Type} {next : Unit → Writing β} {b : β}
    (h : w.call (requireDocument name >>= next) = (.ok b, w')) : w.stage = .writing := by
  refine Classical.byContradiction fun hs => ?_
  simp [requireDocument, call_bind, hs, misuse] at h

/-- An element that was started. -/
structure Begins (name : String) (w w' : Writer) : Prop where
  stage : w.stage = .writing
  markup : w'.markup = w.laid
  openElements : w'.openElements = w.openNames
  pending : w'.pending = some { name := name }
  openAttribute : w'.openAttribute = w.openAttribute
  rootClosed : w'.rootClosed = w.rootClosed
  allowed : ∀ tag, w.pending = some tag →
    w.openAttribute = none ∧ w.rootClosed = false ∧ tagFault? tag = none

theorem begins_startElement (h : w.call (startElement name) = (.ok (), w')) : Begins name w w' := by
  unfold startElement at h
  have hs := stage_of_requireDocument h
  obtain ⟨_, v, hflush, hlast⟩ := of_call_bind (of_requireDocument h)
  have hflushed := flushed hflush
  rw [call_modify, Prod.mk.injEq] at hlast
  obtain ⟨-, rfl⟩ := hlast
  exact ⟨hs, hflushed.markup, hflushed.openElements, rfl, hflushed.openAttribute,
    hflushed.rootClosed, hflushed.allowed⟩

/-- Where an element was started and another one in it, a child could be started. -/
theorem takesChild_of_startElement {v : Writer} {inner : String}
    (h : w.call (startElement name) = (.ok (), v))
    (hinner : v.call (startElement inner) = (.ok (), w')) : w.TakesChild := by
  have hbegins := begins_startElement h
  obtain ⟨hnone, hopen, -⟩ := (begins_startElement hinner).allowed _ hbegins.pending
  exact ⟨hbegins.stage, hbegins.openAttribute.symm.trans hnone, hbegins.rootClosed.symm.trans hopen,
    fun tag htag => (hbegins.allowed tag htag).2.2⟩

theorem of_writeAttribute {n value : String} {tag : PendingTag} (hp : w.pending = some tag)
    (h : w.call (writeAttribute n value) = (.ok (), w')) : w' = w.adding tag [⟨n, value⟩] := by
  by_cases hnew : n ∈ tag.attributes.map (·.name)
  · have hany : (tag.attributes.any fun a => a.name == n) = true := by
      obtain ⟨a, ha, rfl⟩ := List.mem_map.mp hnew
      exact List.any_eq_true.mpr ⟨a, ha, beq_self_eq_true _⟩
    simp only [writeAttribute, requireTag, call_bind, call_get, hp, call_pure] at h
    rw [if_pos hany] at h
    cases h
  · rw [call_writeAttribute hp hnew, Prod.mk.injEq] at h
    exact h.2.symm

/-- An element that was closed. -/
structure Closes (element : String) (w w' : Writer) : Prop where
  names : w.openNames = element :: w'.openElements
  markup : w'.markup = w.laid ++ [.endTag element]
  pending : w'.pending = none
  device : ∀ reason, w'.device ≠ .failed reason

theorem closes_endElement (hlistens : w.Listens) (h : w.call endElement = (.ok (), w')) :
    ∃ element, Closes element w w' := by
  unfold endElement at h
  have hbehind := of_requireDocument h
  rw [call_get_bind] at hbehind
  cases ho : w.openAttribute with
  | some a => simp [ho, misuse] at hbehind
  | none =>
    simp only [ho, Option.isSome_none, Bool.false_eq_true, if_false] at hbehind
    obtain ⟨_, v, hflush, hclose⟩ := of_call_bind hbehind
    have hflushed := flushed hflush
    rw [call_get_bind] at hclose
    cases hopen : v.openElements with
    | nil => simp [hopen, misuse] at hclose
    | cons element rest =>
      simp only [hopen, call_set_bind] at hclose
      -- no end tag is handed to a device that has failed, so it has to be known that it has not
      have hhands := hands_emitEndTag hclose (hflushed.listens hlistens hflushed.pending)
      refine ⟨element, ?_, ?_, hhands.pending.trans hflushed.pending, hhands.device⟩
      · rw [← hflushed.openElements, hopen, hhands.openElements]
      · rw [← hflushed.markup]
        exact hhands.markup

/-! ## Calls that succeed -/

theorem TakesChild.startElement (h : w.TakesChild) (hd : w.device = .working)
    (hname : nameFault? name = none) :
    ∃ w', w.call (startElement name) = (.ok (), w') ∧ w'.TakesChild ∧ w'.device = .working := by
  refine ⟨{ w.settled with pending := some { name := name } }, ?_,
    ⟨h.stage, h.noAttribute, h.rootOpen, ?_⟩, hd⟩
  · simp [Writer.startElement, requireDocument, call_bind, h.stage, h.flush hd]
  · rintro tag ⟨⟩
    exact hname

theorem TakesChild.writeAttribute {n value : String} {tag : PendingTag} (h : w.TakesChild)
    (hd : w.device = .working) (hp : w.pending = some tag)
    (hnew : n ∉ tag.attributes.map (·.name)) (hname : nameFault? n = none)
    (hvalue : textFault? value = none) :
    ∃ w', w.call (writeAttribute n value) = (.ok (), w') ∧ w'.TakesChild ∧
      w'.device = .working := by
  refine ⟨_, call_writeAttribute hp hnew value, ⟨h.stage, h.noAttribute, h.rootOpen, ?_⟩, hd⟩
  rintro other ⟨⟩
  have htag := h.tag tag hp
  rw [tagFault?, Option.or_eq_none_iff] at htag ⊢
  refine ⟨?_, htag.2⟩
  rw [List.findSome?_append, htag.1]
  simp [hname, hvalue]

theorem TakesChild.endElement {element : String} {rest : List String} (h : w.TakesChild)
    (hd : w.device = .working) (hopen : w.openNames = element :: rest) :
    ∃ w', w.call endElement = (.ok (), w') ∧ (rest ≠ [] → w'.TakesChild) ∧
      w'.device = .working := by
  have hsettled : w.settled.openElements = element :: rest := hopen
  have hdevice : w.settled.device = .working := hd
  refine ⟨({ w.settled with openElements := rest, rootClosed := rest.isEmpty } : Writer).wrote
    (.endTag element), ?_, fun hrest => ⟨h.stage, h.noAttribute, ?_, nofun⟩, hd⟩
  · simp [Writer.endElement, requireDocument, call_bind, h.stage, h.noAttribute, h.flush hd,
      hsettled, emitEndTag, emit, hdevice, wrote]
  · exact List.isEmpty_eq_false_iff.mpr hrest

end HiveDump.Writer
