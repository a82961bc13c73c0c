import HiveDump.Markup.Call
import HiveDump.Proofs.Markup.WriterCalls

/-!
# The elements that a writer has started

A call that succeeds never takes back what came before it, in every encoding and on every device.
`Writer.started` names the elements whose start tags were handed to the device, in order, and then
the one whose start tag is still open. A call that opens an element adds its name; no other call
that succeeds adds or loses one, but for letting the writer go, which loses an open start tag.

Results:
* `markup_emit`: a token is written, or held back;
* `starts_flush`: a start tag that is written was started before;
* **`starts_call`**: what a call starts;
* `bytes?_of_unmixed`: the document is what was handed to the device, unless that holds it back.
-/

namespace HiveDump

/-- The tokens that a device holds back. -/
def Device.held : Device → List Token
  | full held => held
  | working | lasting _ | failed _ => []

/-- The name of the element that a token starts. -/
def Token.startName? : Token → Option String
  | startTag name _ => some name
  | declaration _ | text _ | endTag _ => none

/-- The names of the elements that tokens start, in order. -/
def Markup.startNames (ts : List Token) : List String :=
  ts.filterMap Token.startName?

namespace Writer

open Markup

/-- The tokens that were handed to the device: those that were written, and those that it holds
back. -/
def markup (w : Writer) : List Token :=
  w.tokens.toList ++ w.device.held

/-- The names of the elements started, in order; the last one may still take attributes. -/
def started (w : Writer) : List String :=
  startNames w.markup ++ (w.pending.map (·.name)).toList

/-- Whether nothing was written if the device takes nothing. -/
def Unmixed (w : Writer) : Prop :=
  ∀ held, w.device = .full held → w.tokens = #[]

/-- Whether a writer is behind another by the elements of these names. -/
structure Starts (names : List String) (w w' : Writer) : Prop where
  started : w'.started = w.started ++ names
  unmixed : w.Unmixed → w'.Unmixed

variable {w w' w'' : Writer} {names more : List String}

theorem Starts.trans (h : Starts names w w') (h' : Starts more w' w'') :
    Starts (names ++ more) w w'' :=
  ⟨by rw [h'.started, h.started, List.append_assoc], fun hw => h'.unmixed (h.unmixed hw)⟩

/-- A change that has nothing to do with what was written. -/
theorem Starts.of_same (htokens : w'.tokens = w.tokens) (hdevice : w'.device = w.device)
    (hpending : w'.pending.map (·.name) = w.pending.map (·.name)) : Starts [] w w' := by
  refine ⟨?_, fun h => ?_⟩
  · rw [Writer.started, Writer.started, markup, markup, htokens, hdevice, hpending,
      List.append_nil]
  · rwa [Unmixed, htokens, hdevice]

theorem Starts.refl (w : Writer) : Starts [] w w :=
  .of_same rfl rfl rfl

/-! ## Output -/

/-- A token is written, or held back; nothing else about the document changes. -/
theorem markup_emit {name : String} {t : Token} (h : w.call (emit name t) = (.ok (), w')) :
    w'.markup = w.markup ++ [t] ∧ w'.pending = w.pending ∧ (w.Unmixed → w'.Unmixed) := by
  unfold emit at h
  rw [call_get_bind] at h
  cases hd : w.device with
  | working =>
    rw [hd] at h
    cases h
    refine ⟨by simp [markup, hd, Device.held], rfl, fun _ held hheld => ?_⟩
    cases hd.symm.trans hheld
  | lasting tokens =>
    rw [hd] at h
    cases tokens with
    | zero =>
      dsimp only at h
      rw [call_modify_bind] at h
      cases h
    | succ n =>
      cases h
      exact ⟨by simp [markup, hd, Device.held], rfl, nofun⟩
  | failed reason =>
    rw [hd] at h
    cases h
  | full held =>
    rw [hd] at h
    dsimp only at h
    rw [call_get_bind] at h
    split at h
    · cases h
      exact ⟨by simp [markup, hd, Device.held], rfl, fun hunmixed _ _ => hunmixed held hd⟩
    · rw [call_modify_bind] at h
      cases h

/-- A token that is no start tag starts nothing. -/
theorem starts_emit {name : String} {t : Token} (ht : t.startName? = none)
    (h : w.call (emit name t) = (.ok (), w')) : Starts [] w w' := by
  obtain ⟨hmarkup, hpending, hunmixed⟩ := markup_emit h
  refine ⟨?_, hunmixed⟩
  simp [started, startNames, hmarkup, hpending, ht]

theorem starts_emitEndTag {call name : String}
    (h : w.call (emitEndTag call name) = (.ok (), w')) :
    Starts [] w w' ∧ w'.pending = w.pending := by
  unfold emitEndTag at h
  rw [call_get_bind] at h
  split at h
  · cases h
    exact ⟨.refl w, rfl⟩
  all_goals exact ⟨starts_emit rfl h, (markup_emit h).2.1⟩

/-- **A start tag that is written was started before.** -/
theorem starts_flush {name : String} (h : w.call (flush name) = (.ok (), w')) :
    Starts [] w w' ∧ w'.pending = none := by
  unfold flush at h
  rw [call_get_bind] at h
  dsimp only at h
  cases hp : w.pending with
  | none =>
    rw [hp] at h
    cases h
    exact ⟨.refl w, hp⟩
  | some tag =>
    rw [hp] at h
    dsimp only at h
    split at h
    · cases h
    · rw [call_set_bind] at h
      split at h
      · cases h
      · split at h
        · cases h
        · obtain ⟨_, w₁, hemit, h⟩ := of_call_bind h
          obtain ⟨hmarkup, hpending, hunmixed⟩ := markup_emit hemit
          cases h
          refine ⟨⟨?_, hunmixed⟩, hpending⟩
          have hwritten : w₁.markup = w.markup ++ [.startTag tag.name tag.attributes] := hmarkup
          have hnone : w₁.pending = none := hpending
          simp only [started, startNames, markup] at hwritten ⊢
          simp [hwritten, hnone, hp, Token.startName?]

/-! ## Calls -/

theorem of_requireDocument {β : Type} {name : String} {next : Unit → Writing β} {b : β}
    (h : w.call (requireDocument name >>= next) = (.ok b, w')) :
    w.call (next ()) = (.ok b, w') := by
  obtain ⟨_, w₁, hrequire, h⟩ := of_call_bind h
  unfold requireDocument at hrequire
  rw [call_get_bind] at hrequire
  split at hrequire
  · cases hrequire
  · cases hrequire
    exact h

theorem starts_startElement {name : String} (h : w.call (startElement name) = (.ok (), w')) :
    Starts [name] w w' := by
  unfold startElement at h
  replace h := of_requireDocument h
  obtain ⟨_, w₂, hflush, h⟩ := of_call_bind h
  obtain ⟨hstarts, hp⟩ := starts_flush hflush
  cases h
  refine hstarts.trans ⟨?_, fun hunmixed => hunmixed⟩
  simp [started, markup, hp]

theorem starts_endElement (h : w.call endElement = (.ok (), w')) :
    Starts [] w w' ∧ w'.pending = none := by
  unfold endElement at h
  replace h := of_requireDocument h
  rw [call_get_bind] at h
  dsimp only at h
  split at h
  · cases h
  · obtain ⟨_, w₂, hflush, h⟩ := of_call_bind h
    obtain ⟨hstarts, hp⟩ := starts_flush hflush
    rw [call_get_bind] at h
    split at h
    · cases h
    · rw [call_set_bind] at h
      obtain ⟨hend, hpending⟩ := starts_emitEndTag h
      exact ⟨hstarts.trans ⟨hend.started, hend.unmixed⟩, hpending.trans hp⟩

theorem starts_endElements {n : Nat} (h : w.call (endElements n) = (.ok (), w')) :
    Starts [] w w' ∧ (w.pending = none → w'.pending = none) := by
  induction n generalizing w with
  | zero =>
    cases h
    exact ⟨.refl _, fun hp => hp⟩
  | succ n ih =>
    obtain ⟨_, w₁, hend, h⟩ := of_call_bind h
    obtain ⟨hstarts, hp⟩ := starts_endElement hend
    obtain ⟨hmore, hpending⟩ := ih h
    exact ⟨hstarts.trans hmore, fun _ => hpending hp⟩

/-- The document is finished, with no start tag open if none was. -/
theorem starts_endDocument (h : w.call endDocument = (.ok (), w')) :
    Starts [] w w' ∧ w'.stage = .finished ∧ (w.pending = none → w'.pending = none) := by
  unfold endDocument at h
  replace h := of_requireDocument h
  rw [call_get_bind] at h
  obtain ⟨_, w₂, hend, h⟩ := of_call_bind h
  obtain ⟨hstarts, hpending⟩ := starts_endElements hend
  rw [call_modify_bind, call_get_bind] at h
  dsimp only at h
  split at h
  · cases h
  · split at h
    · cases h
    all_goals
      cases h
      exact ⟨⟨hstarts.started, hstarts.unmixed⟩, rfl, hpending⟩

theorem starts_startDocument (h : w.call startDocument = (.ok (), w')) : Starts [] w w' := by
  unfold startDocument at h
  rw [call_get_bind] at h
  dsimp only at h
  split at h
  · cases h
  · split at h
    · cases h
    · split at h
      · rw [call_set_bind] at h
        cases h
      next cs _ =>
        rw [call_set_bind] at h
        by_cases hmarkup : cs.writesMarkup = true
        · rw [if_pos hmarkup] at h
          have hemit := starts_emit (t := .declaration w.label) rfl h
          exact ⟨hemit.started, hemit.unmixed⟩
        · rw [if_neg hmarkup] at h
          unfold emit at h
          rw [call_get_bind] at h
          cases h

theorem starts_writeText {text : String} (h : w.call (writeText text) = (.ok (), w')) :
    Starts [] w w' := by
  unfold writeText at h
  replace h := of_requireDocument h
  obtain ⟨_, w₂, hflush, h⟩ := of_call_bind h
  suffices Starts [] w₂ w' from (starts_flush hflush).1.trans this
  rw [call_get_bind] at h
  by_cases hopen : w₂.openElements.isEmpty = true
  · rw [if_pos hopen] at h
    cases h
  · rw [if_neg hopen] at h
    cases hfault : textFault? text with
    | some reason =>
      rw [hfault] at h
      cases h
    | none =>
      rw [hfault] at h
      dsimp only at h
      split at h
      · exact starts_emit rfl h
      · cases h
        exact .refl _

theorem call_requireTag (w : Writer) (name : String) :
    w.call (requireTag name) = match w.pending with
      | some tag => (.ok tag, w)
      | none => (.error (.misuse (.noStartTag name)), w) := by
  unfold requireTag
  rw [call_get_bind]
  cases w.pending <;> rfl

theorem starts_writeAttribute {name value : String}
    (h : w.call (writeAttribute name value) = (.ok (), w')) : Starts [] w w' := by
  unfold writeAttribute at h
  rw [call_bind, call_requireTag] at h
  cases hp : w.pending with
  | none =>
    rw [hp] at h
    cases h
  | some tag =>
    rw [hp] at h
    dsimp only at h
    split at h
    · cases h
    · cases h
      exact .of_same rfl rfl (by rw [hp]; rfl)

theorem starts_startAttribute {name : String}
    (h : w.call (startAttribute name) = (.ok (), w')) : Starts [] w w' := by
  unfold startAttribute at h
  rw [call_bind, call_discard, call_requireTag] at h
  cases hp : w.pending with
  | none =>
    rw [hp] at h
    cases h
  | some tag =>
    rw [hp] at h
    dsimp only [Except.map] at h
    rw [call_get_bind] at h
    split at h
    · cases h
    · cases h
      exact .of_same rfl rfl rfl

/-- **What a call starts**, unless it lets the writer go. -/
theorem starts_call {c : Call} (hc : c ≠ .release) (h : w.call c.act = (.ok (), w')) :
    Starts c.opens?.toList w w' := by
  cases c with
  | enter =>
    cases h
    exact .refl w
  | startDocument => exact starts_startDocument h
  | endDocument => exact (starts_endDocument h).1
  | startElement name => exact starts_startElement h
  | endElement => exact (starts_endElement h).1
  | writeAttribute name value => exact starts_writeAttribute h
  | writeText text => exact starts_writeText h
  | release => exact absurd rfl hc
  | startAttribute name => exact starts_startAttribute h
  | writeBase64 data start length =>
    change w.call (writeBase64 data start length) = _ at h
    unfold writeBase64 at h
    rw [call_get_bind] at h
    split at h
    · cases h
    · cases h
      exact .of_same rfl rfl rfl
  | endAttribute =>
    change w.call endAttribute = _ at h
    unfold endAttribute at h
    rw [call_get_bind] at h
    split at h
    · cases h
    · rw [call_modify_bind] at h
      have hended := starts_writeAttribute h
      exact ⟨hended.started, hended.unmixed⟩

/-! ## The document -/

/-- What was handed to the device is what was written, if anything was. -/
theorem markup_of_unmixed (h : w.Unmixed) (htokens : w.tokens ≠ #[]) :
    w.markup = w.tokens.toList := by
  have hheld : w.device.held = [] := by
    cases hd : w.device with
    | full held => exact absurd (h held hd) htokens
    | _ => rfl
  rw [markup, hheld, List.append_nil]

/-- The document is what was handed to the device, unless that holds it back. -/
theorem bytes?_of_unmixed (h : w.Unmixed) {b : Bytes} (hb : w.bytes? = some b) :
    b = w.encode w.markup := by
  unfold bytes? at hb
  split at hb
  next => cases hb
  next hempty =>
    cases hb
    rw [markup_of_unmixed h fun htokens => hempty (by rw [htokens]; rfl)]

end Writer

end HiveDump
