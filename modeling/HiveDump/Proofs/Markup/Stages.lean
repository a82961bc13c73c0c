import HiveDump.Markup.Call
import HiveDump.Proofs.Markup.WriterCalls

/-!
# The life of a writer

What calls do to the stage of a writer, in every encoding and on every device, whether they succeed
or not. Only the calls that start a document, end it, or let the writer go move a writer on. Any
other call is quiet (`Quiet`): it leaves the stage as it is, declares nothing, and if it fails it
fails with a fault of writing. A writer is mute (`Mute`) if it has no document to write into, or a
device that takes nothing more; a quiet call writes nothing then.

Results:
* `quiet_act`: the calls that are quiet;
* `starting`, `ending`, `stage_release`: what the others come to;
* **`moves`**: what any call comes to.
-/

namespace HiveDump.Writer

/-- The number of declarations that were written. -/
def declarations (w : Writer) : Nat :=
  w.tokens.toList.countP Token.isDeclaration

/-- Whether nothing can be written before a document is started. -/
def Mute (w : Writer) : Prop :=
  w.stage = .writing → ∃ reason, w.device = .failed reason

/-- Whether a writer is as far in its life as another one, and has declared as much. -/
structure Level (w w' : Writer) : Prop where
  label : w'.label = w.label
  stage : w'.stage = w.stage
  declarations : w'.declarations = w.declarations
  mute : w.Mute → w'.Mute ∧ w'.tokens = w.tokens

variable {α β : Type} {u v w w' : Writer}

theorem Level.refl (w : Writer) : Level w w :=
  ⟨rfl, rfl, rfl, fun h => ⟨h, rfl⟩⟩

theorem Level.trans (huv : Level u v) (hvw : Level v w) : Level u w := by
  refine ⟨hvw.label.trans huv.label, hvw.stage.trans huv.stage,
    hvw.declarations.trans huv.declarations, fun hu => ?_⟩
  obtain ⟨hv, htokens⟩ := huv.mute hu
  obtain ⟨hw, htokens'⟩ := hvw.mute hv
  exact ⟨hw, htokens'.trans htokens⟩

/-- A change that writes nothing, and leaves the device as it is. -/
theorem Level.of_same (hlabel : w'.label = w.label) (hstage : w'.stage = w.stage)
    (htokens : w'.tokens = w.tokens) (hdevice : w'.device = w.device) : Level w w' := by
  refine ⟨hlabel, hstage, ?_, fun h => ⟨?_, htokens⟩⟩
  · rw [Writer.declarations, htokens]
    rfl
  · rwa [Mute, hstage, hdevice]

/-- A document that is being written can grow unless its device has failed. -/
theorem not_mute (hs : w.stage = .writing) (hdevice : ∀ reason, w.device ≠ .failed reason) :
    ¬w.Mute := by
  intro hmute
  obtain ⟨reason, hfailed⟩ := hmute hs
  exact hdevice reason hfailed

/-- A further token of a document that is being written. -/
theorem Level.push {device : Device} {t : Token} (hmute : ¬w.Mute)
    (ht : t.isDeclaration = false) :
    Level w { w with tokens := w.tokens.push t, device := device } := by
  refine ⟨rfl, rfl, ?_, fun h => absurd h hmute⟩
  rw [Writer.declarations, Array.toList_push, List.countP_append, List.countP_singleton, ht]
  rfl

/-- A device that takes less. -/
theorem Level.device (hmute : ¬w.Mute) (device : Device) : Level w { w with device := device } :=
  ⟨rfl, rfl, rfl, fun h => absurd h hmute⟩

/-! ## Quiet calls -/

/-- Whether a fault is one of writing. -/
def OfWriting (fault : WriteFault) : Prop :=
  (Fault.write fault).kind = .writing

theorem ofWriting_misuse (m : Misuse) : OfWriting (.misuse m) := rfl

theorem ofWriting_refused (call : String) (reason : MarkupFault) :
    OfWriting (.refused call reason) := rfl

/-- Whether a call leaves a writer where it is in its life, and fails only in writing. -/
structure Quiet (w : Writer) (call : Writing α) : Prop where
  level : Level w (w.call call).2
  ofWriting : ∀ fault, (w.call call).1 = .error fault → OfWriting fault

variable {call : Writing α} {next : α → Writing β}

theorem quiet_pure (a : α) : Quiet w (pure a) :=
  ⟨.refl w, nofun⟩

theorem quiet_throw {fault : WriteFault} (h : OfWriting fault) :
    Quiet w (throw fault : Writing α) :=
  ⟨.refl w, fun _ hfault => Except.error.inj hfault ▸ h⟩

theorem quiet_misuse (m : Misuse) : Quiet w (misuse m : Writing α) :=
  quiet_throw (ofWriting_misuse m)

theorem quiet_refuse (name : String) (reason : MarkupFault) :
    Quiet w (refuse name reason : Writing α) :=
  quiet_throw (ofWriting_refused name reason)

theorem Quiet.bind (h : Quiet w call) (hnext : ∀ a w', Level w w' → Quiet w' (next a)) :
    Quiet w (call >>= next) := by
  obtain ⟨hlevel, hfault⟩ := h
  refine ⟨?_, ?_⟩
  all_goals
    rw [call_bind]
    rcases hcall : w.call call with ⟨fault | a, w'⟩
    all_goals rw [hcall] at hlevel hfault
  · exact hlevel
  · exact hlevel.trans (hnext a w' hlevel).level
  · exact fun other hother => hfault other (congrArg Except.error (Except.error.inj hother))
  · exact (hnext a w' hlevel).ofWriting

theorem quiet_get {f : Writer → Writing β} (h : Quiet w (f w)) : Quiet w (get >>= f) :=
  ⟨call_get_bind w f ▸ h.level, call_get_bind w f ▸ h.ofWriting⟩

theorem quiet_set (h : Level w w') : Quiet w (set w' : Writing PUnit) :=
  ⟨h, nofun⟩

theorem quiet_modify {change : Writer → Writer} (h : Level w (change w)) :
    Quiet w (modify change : Writing PUnit) :=
  ⟨h, nofun⟩

/-- What follows a refused call is not done. -/
theorem quiet_refused {fault : WriteFault} (h : OfWriting fault) (next : α → Writing β) :
    Quiet w (throw fault >>= next) :=
  have hcall := call_throw_bind w fault next
  ⟨hcall ▸ .refl w, fun _ hother => Except.error.inj (hcall ▸ hother) ▸ h⟩

/-- A call that is refused under a condition. -/
theorem Quiet.guard {c : Prop} [Decidable c] {fault : WriteFault} {next : Unit → Writing β}
    (hfault : OfWriting fault) (hnext : ¬c → Quiet w (next ())) :
    Quiet w (if c then throw fault >>= next else next ()) := by
  split
  case isTrue => exact quiet_refused hfault next
  case isFalse hc => exact hnext hc

theorem Quiet.discard (h : Quiet w call) : Quiet w (discard call) := by
  refine ⟨?_, fun fault hfault => h.ofWriting fault ?_⟩
  · rw [call_discard]
    exact h.level
  · rw [call_discard] at hfault
    cases hcall : (w.call call).1 with
    | error other =>
      rw [hcall] at hfault
      cases hfault
      rfl
    | ok a =>
      rw [hcall] at hfault
      cases hfault

/-! ## Output -/

theorem quiet_emit (hs : w.stage = .writing) {t : Token} (ht : t.isDeclaration = false)
    (name : String) : Quiet w (emit name t) := by
  refine quiet_get ?_
  cases hd : w.device with
  | working => exact quiet_modify (.push (not_mute hs (by simp [hd])) ht)
  | lasting n =>
    have hmute := not_mute hs (by simp [hd])
    cases n with
    | zero => exact (quiet_modify (.device hmute _)).bind fun _ _ _ => quiet_refuse _ _
    | succ n => exact quiet_modify (.push hmute ht)
  | failed reason => exact quiet_refuse _ _
  | full held =>
    have hmute := not_mute hs (by simp [hd])
    refine quiet_get ?_
    split
    · exact quiet_modify (.device hmute _)
    · exact (quiet_modify (.device hmute _)).bind fun _ _ _ => quiet_refuse _ _

theorem quiet_emitEndTag (hs : w.stage = .writing) (call name : String) :
    Quiet w (emitEndTag call name) := by
  refine quiet_get ?_
  split
  · exact quiet_pure _
  all_goals exact quiet_emit hs rfl call

theorem quiet_flush (hs : w.stage = .writing) (name : String) : Quiet w (flush name) := by
  refine quiet_get ?_
  split
  · exact quiet_pure _
  · refine Quiet.guard rfl fun _ => ?_
    refine (quiet_set ?_).bind fun _ v hv => ?_
    · exact .of_same rfl rfl rfl rfl
    · dsimp only
      split
      · exact quiet_refused (ofWriting_refused _ _) _
      · refine Quiet.guard rfl fun _ => ?_
        exact (quiet_emit (hv.stage.trans hs) rfl name).bind fun _ _ _ =>
          quiet_modify (.of_same rfl rfl rfl rfl)

/-- What needs a document that is being written finds one, or fails. -/
theorem quiet_requireDocument (name : String) {next : Unit → Writing β}
    (h : w.stage = .writing → Quiet w (next ())) : Quiet w (requireDocument name >>= next) := by
  by_cases hs : w.stage = .writing
  · have hrequire : w.call (requireDocument name) = (.ok (), w) := by
      simp [requireDocument, call_bind, hs]
    have hcall : w.call (requireDocument name >>= next) = w.call (next ()) := by
      rw [call_bind, hrequire]
    exact ⟨hcall ▸ (h hs).level, hcall ▸ (h hs).ofWriting⟩
  · have hcall : w.call (requireDocument name >>= next) =
        (.error (.misuse (.notStarted name)), w) := by
      simp [requireDocument, call_bind, hs, misuse]
    refine ⟨hcall ▸ .refl w, fun fault hfault => ?_⟩
    rw [hcall] at hfault
    exact Except.error.inj hfault ▸ rfl

/-! ## The calls -/

theorem quiet_startElement (name : String) : Quiet w (startElement name) :=
  quiet_requireDocument _ fun hs => (quiet_flush hs _).bind fun _ _ _ =>
    quiet_modify (.of_same rfl rfl rfl rfl)

theorem quiet_endElement : Quiet w endElement := by
  refine quiet_requireDocument _ fun hs => quiet_get (Quiet.guard rfl fun _ => ?_)
  refine (quiet_flush hs _).bind fun _ v hv => quiet_get ?_
  split
  · exact quiet_misuse _
  · refine (quiet_set ?_).bind fun _ u hu => ?_
    · exact .of_same rfl rfl rfl rfl
    · exact quiet_emitEndTag (hu.stage.trans (hv.stage.trans hs)) _ _

theorem quiet_endElements (n : Nat) : Quiet w (endElements n) := by
  induction n generalizing w with
  | zero => exact quiet_pure _
  | succ n ih => exact quiet_endElement.bind fun _ _ _ => ih

theorem quiet_requireTag (name : String) : Quiet w (requireTag name) := by
  refine quiet_get ?_
  split
  · exact quiet_pure _
  · exact quiet_misuse _

theorem quiet_writeAttribute (name value : String) : Quiet w (writeAttribute name value) :=
  (quiet_requireTag _).bind fun _ _ _ => Quiet.guard rfl fun _ =>
    quiet_modify (.of_same rfl rfl rfl rfl)

theorem quiet_startAttribute (name : String) : Quiet w (startAttribute name) :=
  (quiet_requireTag _).discard.bind fun _ _ _ => quiet_get <| Quiet.guard rfl fun _ =>
    quiet_modify (.of_same rfl rfl rfl rfl)

theorem quiet_writeBase64 (data : Bytes) (start : Int) (length : Option Int) :
    Quiet w (writeBase64 data start length) := by
  refine quiet_get ?_
  split
  · exact quiet_misuse _
  · exact quiet_modify (.of_same rfl rfl rfl rfl)

theorem quiet_endAttribute : Quiet w endAttribute := by
  refine quiet_get ?_
  split
  · exact quiet_misuse _
  · exact (quiet_modify (.of_same rfl rfl rfl rfl)).bind fun _ _ _ => quiet_writeAttribute _ _

theorem quiet_writeText (text : String) : Quiet w (writeText text) := by
  refine quiet_requireDocument _ fun hs => (quiet_flush hs _).bind fun _ v hv => quiet_get ?_
  refine Quiet.guard rfl fun _ => ?_
  dsimp only
  split
  · exact quiet_refused (ofWriting_refused _ _) _
  · split
    · exact quiet_emit (hv.stage.trans hs) rfl _
    · exact quiet_pure _

/-- **The calls that are quiet.** -/
theorem quiet_act {c : Call} (hstart : c ≠ .startDocument) (hend : c ≠ .endDocument)
    (hrelease : c ≠ .release) : Quiet w c.act := by
  cases c with
  | enter => exact quiet_pure _
  | startDocument => exact absurd rfl hstart
  | endDocument => exact absurd rfl hend
  | startElement name => exact quiet_startElement name
  | endElement => exact quiet_endElement
  | writeAttribute name value => exact quiet_writeAttribute name value
  | startAttribute name => exact quiet_startAttribute name
  | writeBase64 data start length => exact quiet_writeBase64 data start length
  | endAttribute => exact quiet_endAttribute
  | writeText text => exact quiet_writeText text
  | release => exact absurd rfl hrelease

/-! ## The calls that move a writer on -/

/-- What starting a document can come to. -/
inductive Starting (w : Writer) : Except WriteFault Unit → Writer → Prop
  | refused {fault : WriteFault} : OfWriting fault →
      (w.stage = .idle → Markup.legal w.label = false) → Starting w (.error fault) w
  /-- No encoding has the label. -/
  | unknown : w.stage = .idle → Markup.legal w.label = true → Charset.ofLabel? w.label = none →
      Starting w (.error (.unknownEncoding w.label)) { w with stage := .unwritable }
  /-- The document is started, and its declaration cannot be written. -/
  | mute {fault : WriteFault} {w' : Writer} : w.stage = .idle → Charset.ofLabel? w.label ≠ none →
      OfWriting fault → w'.stage = .writing → w'.label = w.label → w'.tokens = w.tokens →
      w'.Mute → Starting w (.error fault) w'
  | declared {w' : Writer} : w.stage = .idle → Charset.ofLabel? w.label ≠ none →
      w'.stage = .writing → w'.label = w.label → w'.declarations ≤ w.declarations + 1 →
      Starting w (.ok ()) w'

/-- The declaration is written or held back, or the device fails. -/
theorem starting_emit (hidle : w.stage = .idle) (hknown : Charset.ofLabel? w.label ≠ none)
    (hs : v.stage = .writing) (hlabel : v.label = w.label) (htokens : v.tokens = w.tokens)
    (name : String) (t : Token) :
    Starting w (v.call (emit name t)).1 (v.call (emit name t)).2 := by
  have hpush : (v.tokens.push t).toList.countP Token.isDeclaration ≤ w.declarations + 1 := by
    rw [Array.toList_push, List.countP_append, htokens]
    exact Nat.add_le_add_left List.countP_le_length _
  have hmute (w' : Writer) (hs : w'.stage = .writing) (hlabel : w'.label = w.label)
      (htokens : w'.tokens = w.tokens) {reason : MarkupFault} (hd : w'.device = .failed reason)
      (given : MarkupFault) : Starting w (.error (.refused name given)) w' :=
    .mute hidle hknown (ofWriting_refused _ _) hs hlabel htokens fun _ => ⟨reason, hd⟩
  unfold emit
  rw [call_get_bind]
  cases hd : v.device with
  | working => exact .declared hidle hknown hs hlabel hpush
  | lasting n =>
    cases n with
    | zero => exact hmute { v with device := .failed .deviceFailed } hs hlabel htokens rfl _
    | succ n => exact .declared hidle hknown hs hlabel hpush
  | failed reason => exact hmute v hs hlabel htokens hd reason
  | full held =>
    dsimp only
    rw [call_get_bind]
    split
    · refine .declared hidle hknown hs hlabel ?_
      change v.declarations ≤ _
      rw [declarations, htokens]
      exact Nat.le_succ _
    · exact hmute { v with device := .failed .deviceFailed } hs hlabel htokens rfl _

/-- **What starting a document comes to.** -/
theorem starting (w : Writer) :
    Starting w (w.call startDocument).1 (w.call startDocument).2 := by
  unfold startDocument
  rw [call_get_bind]
  by_cases hs : w.stage = .idle
  · cases hlegal : Markup.legal w.label with
    | false =>
      have hcall : Starting w (.error (.refused "start_document" .illegalCharacter)) w :=
        .refused (ofWriting_refused _ _) fun _ => hlegal
      simpa [hs, hlegal, call_bind, refuse] using hcall
    | true =>
      cases hlabel : Charset.ofLabel? w.label with
      | none => simpa [hs, hlegal, hlabel, call_bind] using Starting.unknown hs hlegal hlabel
      | some cs =>
        have hknown : Charset.ofLabel? w.label ≠ none := by simp [hlabel]
        have hcall := starting_emit (v := { w with
          stage := .writing
          rootClosed := false
          device := if cs.writesMarkup then w.device else .failed .unencodable }) hs hknown rfl rfl
          rfl "start_document" (.declaration w.label)
        simpa [hs, hlegal, hlabel, call_bind] using hcall
  · have hcall : Starting w (.error (.misuse .alreadyStarted)) w :=
      .refused (ofWriting_misuse _) fun hidle => absurd hidle hs
    simpa [hs, call_bind, misuse] using hcall

/-- What ending a document can come to. -/
inductive Ending (w : Writer) : Except WriteFault Unit → Writer → Prop
  | refused {fault : WriteFault} {w' : Writer} : OfWriting fault → Level w w' →
      Ending w (.error fault) w'
  /-- The document is finished, even if its end cannot be written. -/
  | finished {result : Except WriteFault Unit} {v : Writer} : w.stage = .writing →
      (∀ fault, result = .error fault → OfWriting fault) → Level w v →
      Ending w result { v with stage := .finished }

/-- **What ending a document comes to.** -/
theorem ending (w : Writer) : Ending w (w.call endDocument).1 (w.call endDocument).2 := by
  unfold endDocument
  by_cases hs : w.stage = .writing
  · obtain ⟨hlevel, hfault⟩ := quiet_endElements (w := w) w.depth
    rcases hcall : w.call (endElements w.depth) with ⟨fault | _, v⟩
    all_goals rw [hcall] at hlevel hfault
    · have hended := Ending.refused (hfault fault rfl) hlevel
      simpa [requireDocument, hs, call_bind, hcall] using hended
    · have hended {result : Except WriteFault Unit}
          (hresult : ∀ fault, result = .error fault → OfWriting fault) :
          Ending w result { v with stage := .finished } := .finished hs hresult hlevel
      have hrefused (reason : MarkupFault) :=
        hended fun _ h => Except.error.inj h ▸ ofWriting_refused "end_document" reason
      have hdone : Ending w (.ok ()) { v with stage := .finished } := hended fun _ h => by cases h
      by_cases hroot : v.rootClosed = true
      · cases hd : v.device with
        | failed reason =>
          simpa [requireDocument, hs, call_bind, hcall, hroot, hd, refuse] using hrefused reason
        | working => simpa [requireDocument, hs, call_bind, hcall, hroot, hd] using hdone
        | full held => simpa [requireDocument, hs, call_bind, hcall, hroot, hd] using hdone
        | lasting n => simpa [requireDocument, hs, call_bind, hcall, hroot, hd] using hdone
      · simpa [requireDocument, hs, call_bind, hcall, hroot, refuse] using hrefused .noContent
  · have hcall : Ending w (.error (.misuse (.notStarted "end_document"))) w :=
      .refused (ofWriting_misuse _) (.refl w)
    simpa [requireDocument, hs, call_bind, misuse] using hcall

/-- A document that is let go can be started again unless it is finished. -/
theorem stage_release (w : Writer) :
    (w.call release).2.stage = if w.stage = .finished then .finished else .idle := by
  unfold release
  rw [call_get_bind]
  cases hs : w.stage with
  | idle => exact hs
  | unwritable => rfl
  | writing => rfl
  | finished => exact hs

/-- What a call comes to. -/
inductive Moves (w : Writer) : Call → Except WriteFault Unit → Writer → Prop
  | start {result : Except WriteFault Unit} {w' : Writer} : Starting w result w' →
      Moves w .startDocument result w'
  | finish {result : Except WriteFault Unit} {w' : Writer} : Ending w result w' →
      Moves w .endDocument result w'
  | letGo {w' : Writer} : w'.label = w.label → w'.tokens = w.tokens →
      w'.stage = (if w.stage = .finished then .finished else .idle) →
      Moves w .release (.ok ()) w'
  | quiet {c : Call} {result : Except WriteFault Unit} {w' : Writer} : c ≠ .startDocument →
      c ≠ .release → Level w w' → (∀ fault, result = .error fault → OfWriting fault) →
      Moves w c result w'

/-- **What a call comes to**, whether it succeeds or not. -/
theorem moves (w : Writer) (c : Call) : Moves w c (w.call c.act).1 (w.call c.act).2 := by
  by_cases hstart : c = .startDocument
  · subst hstart
    exact .start (starting w)
  by_cases hend : c = .endDocument
  · subst hend
    exact .finish (ending w)
  by_cases hrelease : c = .release
  · subst hrelease
    have hstage := stage_release w
    obtain ⟨w', hcall, hlabel, htokens⟩ := call_release w
    change Moves w .release (w.call release).1 (w.call release).2
    rw [hcall] at hstage ⊢
    exact .letGo hlabel htokens hstage
  have hquiet := quiet_act (w := w) hstart hend hrelease
  exact .quiet hstart hrelease hquiet.level hquiet.ofWriting

end HiveDump.Writer
