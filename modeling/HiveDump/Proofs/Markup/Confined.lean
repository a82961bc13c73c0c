import HiveDump.Proofs.Markup.WriterCalls

/-!
# The start tags of one name

Which attributes the elements of a name can have is settled by the calls that open them, in every
encoding and on every device, whether calls succeed or not. A writer that is not busy with such an
element (`Confined`) stays so at every other call; an element of that name goes through the state in
which its start tag takes attributes (`Filling`), which no call may fail to leave.

Results:
* `exists_emit`, **`exists_flush`**: what a call may do to the tokens;
* `Confined.startElement`, `Confined.endElement`, `Confined.writeAttribute`, `Confined.writeText`:
  calls that have nothing to do with the elements of that name;
* **`Confined.startFilling`**, `Filling.writeAttribute`, **`Filling.endElement`**: an element of
  that name.
-/

namespace HiveDump.Writer

open Markup

variable {w : Writer} {n name : String} {P : List Attribute → Prop} {attributes : List Attribute}

/-! ## Tokens -/

/-- A token is written, or it is not. -/
theorem exists_emit (w : Writer) (call : String) (t : Token) :
    ∃ device tokens, (w.call (emit call t)).2 = { w with device := device, tokens := tokens } ∧
      (tokens = w.tokens ∨ tokens = w.tokens.push t) := by
  unfold emit
  rw [call_bind, call_get]
  dsimp only
  split
  · exact ⟨w.device, _, rfl, .inr rfl⟩
  · rw [call_bind, call_get]
    dsimp only
    split
    · exact ⟨_, w.tokens, rfl, .inl rfl⟩
    · exact ⟨_, w.tokens, rfl, .inl rfl⟩
  · exact ⟨_, _, rfl, .inr rfl⟩
  · exact ⟨_, w.tokens, rfl, .inl rfl⟩
  · exact ⟨w.device, w.tokens, rfl, .inl rfl⟩

theorem exists_emitEndTag (w : Writer) (call : String) (name : String) :
    ∃ device tokens,
      (w.call (emitEndTag call name)).2 = { w with device := device, tokens := tokens } ∧
        (tokens = w.tokens ∨ tokens = w.tokens.push (.endTag name)) := by
  unfold emitEndTag
  rw [call_bind, call_get]
  dsimp only
  split
  · exact ⟨w.device, w.tokens, rfl, .inl rfl⟩
  all_goals exact exists_emit w call _

/-- **Behind a flush no start tag is pending**: it is written, or it is lost. -/
theorem exists_flush (hattr : w.openAttribute = none) (call : String) :
    ∃ device tokens openElements,
      (w.call (flush call)).2 =
        { w with
          pending := none
          device := device
          tokens := tokens
          openElements := openElements } ∧
      (tokens = w.tokens ∨
        ∃ tag, w.pending = some tag ∧
          tokens = w.tokens.push (.startTag tag.name tag.attributes)) := by
  unfold flush
  rw [call_bind, call_get]
  dsimp only
  cases hp : w.pending with
  | none =>
    refine ⟨w.device, w.tokens, w.openElements, ?_, .inl rfl⟩
    rw [call_pure, ← hp]
  | some tag =>
    have hlost : ∃ device tokens openElements,
        { w with pending := none } =
          { w with
            pending := none
            device := device
            tokens := tokens
            openElements := openElements } ∧
        (tokens = w.tokens ∨ ∃ other, some tag = some other ∧
          tokens = w.tokens.push (.startTag other.name other.attributes)) :=
      ⟨w.device, w.tokens, w.openElements, rfl, .inl rfl⟩
    cases htag : tagFault? tag with
    | some reason => simpa [hattr, call_bind, refuse, htag] using hlost
    | none =>
      by_cases hroot : w.rootClosed = true
      · simpa [hattr, call_bind, refuse, htag, hroot] using hlost
      · obtain ⟨device, tokens, hemit, htokens⟩ := exists_emit { w with pending := none } call
          (.startTag tag.name tag.attributes)
        have hwritten : tokens = w.tokens ∨ ∃ other, some tag = some other ∧
            tokens = w.tokens.push (.startTag other.name other.attributes) :=
          htokens.imp_right fun h => ⟨tag, rfl, h⟩
        have hnone : w.openAttribute.isSome = false := by
          rw [hattr]
          rfl
        simp only [hnone, Bool.false_eq_true, if_false, if_neg hroot, htag, call_bind, call_set]
        rcases hresult : ({ w with pending := none } : Writer).call
          (emit call (.startTag tag.name tag.attributes)) with ⟨fault | _, w'⟩
        · rw [hresult] at hemit
          cases hemit
          exact ⟨device, tokens, w.openElements, rfl, hwritten⟩
        · rw [hresult] at hemit
          cases hemit
          exact ⟨device, tokens, tag.name :: w.openElements, rfl, hwritten⟩

/-! ## Writers that are not busy with such an element -/

/-- Whether every start tag of a name that was written has attributes of a sort. -/
def Tagged (n : String) (P : List Attribute → Prop) (w : Writer) : Prop :=
  ∀ attributes, .startTag n attributes ∈ w.tokens.toList → P attributes

/-- Whether a writer is not busy with an element of a name, and all before it were of a sort. -/
structure Confined (n : String) (P : List Attribute → Prop) (w : Writer) : Prop where
  tagged : w.Tagged n P
  noAttribute : w.openAttribute = none
  pending : ∀ tag, w.pending = some tag → tag.name ≠ n

/-- Whether the content of an attribute of another element is being given in pieces. -/
structure Spelling (n : String) (P : List Attribute → Prop) (w : Writer) : Prop where
  tagged : w.Tagged n P
  open? : w.openAttribute.isSome = true
  pending : ∀ tag, w.pending = some tag → tag.name ≠ n

/-- Whether the start tag of an element of a name is pending and takes attributes. -/
structure Filling (n : String) (P : List Attribute → Prop) (attributes : List Attribute)
    (w : Writer) : Prop where
  tagged : w.Tagged n P
  noAttribute : w.openAttribute = none
  stage : w.stage = .writing
  pending : w.pending = some ⟨n, attributes⟩

theorem Tagged.push (h : w.Tagged n P) {t : Token} (ht : ∀ as, t = .startTag n as → P as) :
    ∀ as, .startTag n as ∈ (w.tokens.push t).toList → P as := by
  intro as has
  rw [Array.toList_push, List.mem_append, List.mem_singleton] at has
  exact has.elim (h as) fun heq => ht as heq.symm

/-- The same tokens, or one more that is no start tag of that name. -/
theorem Tagged.of_push (h : w.Tagged n P) {t : Token} {tokens : Array Token}
    (ht : ∀ as, t = .startTag n as → P as)
    (htokens : tokens = w.tokens ∨ tokens = w.tokens.push t) :
    ∀ as, .startTag n as ∈ tokens.toList → P as := by
  rcases htokens with rfl | rfl
  · exact h
  · exact h.push ht

/-- What a flush leaves, if the start tag that is pending may be written. -/
theorem Tagged.flush (h : w.Tagged n P) (hattr : w.openAttribute = none)
    (hpending : ∀ tag, w.pending = some tag → tag.name = n → P tag.attributes) (call : String) :
    ((w.call (flush call)).2).Confined n P := by
  obtain ⟨device, tokens, openElements, hflush, htokens⟩ := exists_flush hattr call
  rw [hflush]
  refine ⟨?_, hattr, nofun⟩
  rcases htokens with rfl | ⟨tag, htag, rfl⟩
  · exact h
  · refine h.push fun as has => ?_
    obtain ⟨hname, rfl⟩ := Token.startTag.inj has
    exact hpending tag htag hname

theorem Confined.flush (h : w.Confined n P) (call : String) :
    ((w.call (flush call)).2).Confined n P :=
  h.tagged.flush h.noAttribute (fun tag htag hname => absurd hname (h.pending tag htag)) call

theorem Confined.emit (h : w.Confined n P) (call : String) {t : Token}
    (ht : ∀ as, t ≠ .startTag n as) : ((w.call (emit call t)).2).Confined n P := by
  obtain ⟨device, tokens, hemit, htokens⟩ := exists_emit w call t
  rw [hemit]
  exact ⟨h.tagged.of_push (fun as has => absurd has (ht as)) htokens, h.noAttribute, h.pending⟩

theorem Confined.emitEndTag (h : w.Confined n P) (call name : String) :
    ((w.call (emitEndTag call name)).2).Confined n P := by
  obtain ⟨device, tokens, hemit, htokens⟩ := exists_emitEndTag w call name
  rw [hemit]
  exact ⟨h.tagged.of_push (fun as has => by cases has) htokens, h.noAttribute, h.pending⟩

/-! ## Calls -/

variable {α β : Type} {call : Writing α} {next : α → Writing β}

/-- What follows a call that leaves a writer as required, whether it succeeds or not. -/
theorem confined_bind (h : ((w.call call).2).Confined n P)
    (hnext : ∀ a (w' : Writer), w'.Confined n P → ((w'.call (next a)).2).Confined n P) :
    ((w.call (call >>= next)).2).Confined n P := by
  rw [call_bind]
  rcases hcall : w.call call with ⟨fault | a, w'⟩
  · rwa [hcall] at h
  · rw [hcall] at h
    exact hnext a w' h

theorem requireDocument_eq (w : Writer) (name : String) :
    w.call (requireDocument name) =
      (if w.stage ≠ .writing then .error (.misuse (.notStarted name)) else .ok (), w) := by
  unfold requireDocument
  rw [call_bind, call_get]
  dsimp only
  split <;> rfl

theorem Confined.requireDocument (h : w.Confined n P) (name : String) :
    ((w.call (requireDocument name)).2).Confined n P := by
  rwa [requireDocument_eq]

/-- The document is started, at most. -/
theorem Confined.startDocument (h : w.Confined n P) : ((w.call startDocument).2).Confined n P := by
  unfold Writer.startDocument
  rw [call_bind, call_get]
  dsimp only
  split
  · exact h
  · split
    · exact h
    · split
      · exact ⟨h.tagged, h.noAttribute, h.pending⟩
      · refine confined_bind ⟨h.tagged, h.noAttribute, h.pending⟩ fun _ w' hw' => ?_
        exact hw'.emit _ nofun

theorem Confined.startElement (h : w.Confined n P) (hname : name ≠ n) :
    ((w.call (startElement name)).2).Confined n P := by
  refine confined_bind (h.requireDocument _) fun _ w₁ hw₁ => ?_
  refine confined_bind (hw₁.flush _) fun _ w₂ hw₂ => ⟨hw₂.tagged, hw₂.noAttribute, ?_⟩
  rintro tag htag
  cases htag
  exact hname

/-- What closing an element does behind its start tag. -/
def closeTag : Writing Unit := do
  let w ← get
  match w.openElements with
  | [] => misuse .noElement
  | name :: rest =>
    set { w with openElements := rest, rootClosed := rest.isEmpty }
    Writer.emitEndTag "end_element" name

theorem endElement_eq (hattr : w.openAttribute = none) (hstage : w.stage = .writing) :
    w.call endElement = w.call (do
      flush "end_element"
      closeTag) := by
  have hnone : w.openAttribute.isSome = false := by
    rw [hattr]
    rfl
  unfold endElement
  rw [call_bind, requireDocument_eq, if_neg (fun h => h hstage)]
  dsimp only
  rw [call_bind, call_get]
  simp only [hnone, Bool.false_eq_true, if_false]
  rfl

theorem Confined.closeTag (h : w.Confined n P) : ((w.call closeTag).2).Confined n P := by
  unfold Writer.closeTag
  rw [call_bind, call_get]
  dsimp only
  split
  · exact h
  · refine confined_bind ⟨h.tagged, h.noAttribute, h.pending⟩ fun _ w' hw' => ?_
    exact hw'.emitEndTag _ _

theorem Confined.endElement (h : w.Confined n P) : ((w.call endElement).2).Confined n P := by
  by_cases hstage : w.stage = .writing
  · rw [endElement_eq h.noAttribute hstage]
    exact confined_bind (h.flush _) fun _ _ hw' => hw'.closeTag
  · unfold Writer.endElement
    rw [call_bind, requireDocument_eq]
    simpa [hstage] using h

theorem Confined.endElements (h : w.Confined n P) (count : Nat) :
    ((w.call (endElements count)).2).Confined n P := by
  induction count generalizing w with
  | zero => exact h
  | succ count ih => exact confined_bind h.endElement fun _ _ hw' => ih hw'

theorem Confined.endDocument (h : w.Confined n P) : ((w.call endDocument).2).Confined n P := by
  refine confined_bind (h.requireDocument _) fun _ w₁ hw₁ => ?_
  rw [call_bind, call_get]
  refine confined_bind (hw₁.endElements _) fun _ w₂ hw₂ => ?_
  refine confined_bind ⟨hw₂.tagged, hw₂.noAttribute, hw₂.pending⟩ fun _ w₃ hw₃ => ?_
  rw [call_bind, call_get]
  dsimp only
  split
  · exact hw₃
  · split <;> exact hw₃

theorem Confined.writeText (h : w.Confined n P) (text : String) :
    ((w.call (writeText text)).2).Confined n P := by
  refine confined_bind (h.requireDocument _) fun _ w₁ hw₁ => ?_
  refine confined_bind (hw₁.flush _) fun _ w₂ hw₂ => ?_
  rw [call_bind, call_get]
  dsimp only
  split
  · exact hw₂
  · split
    · exact hw₂
    · split
      · exact hw₂.emit _ nofun
      · exact hw₂

/-- An attribute of another element. -/
theorem Confined.writeAttribute (h : w.Confined n P) (attributeName value : String) :
    ((w.call (writeAttribute attributeName value)).2).Confined n P := by
  unfold Writer.writeAttribute requireTag
  rw [call_bind, call_bind, call_get]
  dsimp only
  cases hp : w.pending with
  | none => exact h
  | some tag =>
    dsimp only [call_pure]
    split
    · exact h
    · refine ⟨h.tagged, h.noAttribute, ?_⟩
      rintro other hother
      cases hother
      exact h.pending tag hp

/-! ## Attributes in pieces -/

theorem Confined.startAttribute (h : w.Confined n P) (attributeName : String) :
    (∃ w', w.call (startAttribute attributeName) = (.ok (), w') ∧ w'.Spelling n P) ∨
      ∃ fault w', w.call (startAttribute attributeName) = (.error fault, w') ∧ w'.Confined n P := by
  have hnone : w.openAttribute.isSome = false := by
    rw [h.noAttribute]
    rfl
  unfold Writer.startAttribute requireTag
  rw [call_bind, call_discard, call_bind, call_get]
  dsimp only
  cases hp : w.pending with
  | none => exact .inr ⟨_, w, rfl, h⟩
  | some tag =>
    simp only [call_pure, Except.map, call_bind, call_get, hnone, Bool.false_eq_true, if_false]
    exact .inl ⟨_, rfl, h.tagged, rfl, h.pending⟩

theorem Spelling.writeBase64 (h : w.Spelling n P) (data : Bytes) (start : Int)
    (length : Option Int) :
    ∃ w', w.call (writeBase64 data start length) = (.ok (), w') ∧ w'.Spelling n P := by
  obtain ⟨a, ha⟩ := Option.isSome_iff_exists.mp h.open?
  unfold Writer.writeBase64
  rw [call_bind, call_get]
  dsimp only
  rw [ha]
  exact ⟨_, rfl, h.tagged, rfl, h.pending⟩

theorem Spelling.endAttribute (h : w.Spelling n P) : ((w.call endAttribute).2).Confined n P := by
  obtain ⟨a, ha⟩ := Option.isSome_iff_exists.mp h.open?
  have hended : Confined n P { w with openAttribute := none } := ⟨h.tagged, rfl, h.pending⟩
  unfold Writer.endAttribute
  rw [call_bind, call_get]
  dsimp only
  rw [ha]
  exact hended.writeAttribute _ _

/-! ## Elements of that name -/

theorem Confined.startFilling (h : w.Confined n P) :
    (∃ w', w.call (Writer.startElement n) = (.ok (), w') ∧ w'.Filling n P []) ∨
      ∃ fault w', w.call (Writer.startElement n) = (.error fault, w') ∧ w'.Confined n P := by
  unfold Writer.startElement
  rw [call_bind, requireDocument_eq]
  by_cases hstage : w.stage = .writing
  · rw [if_neg (fun h => h hstage)]
    dsimp only
    rw [call_bind]
    have hflush := h.flush "start_element"
    obtain ⟨device, tokens, openElements, hcall, -⟩ := exists_flush h.noAttribute "start_element"
    rcases hresult : w.call (Writer.flush "start_element") with ⟨fault | _, w'⟩
    · rw [hresult] at hflush
      exact .inr ⟨fault, w', rfl, hflush⟩
    · rw [hresult] at hflush hcall
      refine .inl ⟨_, rfl, hflush.tagged, hflush.noAttribute, ?_, rfl⟩
      change w'.stage = .writing
      rw [show w' = _ from hcall]
      exact hstage
  · rw [if_pos hstage]
    exact .inr ⟨_, w, rfl, h⟩

/-- An attribute that the element does not have yet. -/
theorem Filling.writeAttribute (h : w.Filling n P attributes) {a : Attribute}
    (hnew : a.name ∉ attributes.map (·.name)) :
    ∃ w', w.call (writeAttribute a.name a.value) = (.ok (), w') ∧
      w'.Filling n P (attributes ++ [a]) := by
  have hany : (attributes.any fun b => b.name == a.name) = false := by
    rw [List.any_eq_false]
    intro b hb heq
    exact hnew (List.mem_map.mpr ⟨b, hb, beq_iff_eq.mp heq⟩)
  unfold Writer.writeAttribute requireTag
  rw [call_bind, call_bind, call_get]
  dsimp only
  rw [h.pending]
  simp only [call_pure, hany, Bool.false_eq_true, if_false]
  exact ⟨_, rfl, h.tagged, h.noAttribute, h.stage, rfl⟩

/-- **An element is closed** behind its start tag, which is written or lost. -/
theorem Filling.endElement (h : w.Filling n P attributes) (hp : P attributes) :
    ((w.call endElement).2).Confined n P := by
  rw [endElement_eq h.noAttribute h.stage]
  refine confined_bind (h.tagged.flush h.noAttribute ?_ _) fun _ _ hw' => hw'.closeTag
  intro tag htag _
  rw [h.pending] at htag
  cases htag
  exact hp

end HiveDump.Writer
