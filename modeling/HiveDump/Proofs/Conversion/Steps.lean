import HiveDump.Conversion
import HiveDump.Proofs.Markup.WriterCalls
import HiveDump.Proofs.Report.Yields

/-!
# Steps of a conversion

A conversion writes its body, closes the hive, and either completes the document or gives up. What
follows the body depends only on how the body ended, so every result about conversions starts from
one of the two equations here.

Results:
* `after_bind`, `after_tryCatch`, `after_report`: sequences of steps;
* `after_close`, `after_closeAfterFailure`: the hive is closed;
* **`convert_of_ok`**, **`convert_of_error`**: what follows the body;
* **`giveUp_spec`**: what follows a fault;
* **`convertWith_eq`**: a conversion from a configuration; letting go of its document changes
  nothing of what it leaves.
-/

namespace HiveDump

/-- Whether a hive that cannot be closed says so. -/
def Source.ClosesProperly (src : Source) : Prop :=
  ∀ fault, src.close = .error fault → fault.kind = .closing

namespace Conversion

open Report

/-! ## Sequences of steps -/

section Steps

variable {α β : Type} (c : Conversion)

/-- Performs a step. -/
def after (step : Step α) (c : Conversion) : Except Fault α × Conversion :=
  step.run.run c

@[simp] theorem after_pure (a : α) : after (pure a) c = (.ok a, c) := rfl

@[simp] theorem after_throw (fault : Fault) : after (throw fault : Step α) c = (.error fault, c) :=
  rfl

theorem after_get : after (get : Step _) c = (.ok c, c) := rfl

theorem after_set (c' : Conversion) : after (set c' : Step _) c = (.ok ⟨⟩, c') := rfl

theorem after_bind (x : Step α) (f : α → Step β) :
    after (x >>= f) c = match after x c with
      | (.ok a, c') => after (f a) c'
      | (.error fault, c') => (.error fault, c') := by
  change ExceptT.bindCont f (after x c).1 (after x c).2 = _
  rcases after x c with ⟨_ | a, c'⟩ <;> rfl

theorem after_tryCatch (x : Step α) (handler : Fault → Step α) :
    after (tryCatch x handler) c = match after x c with
      | (.ok a, c') => (.ok a, c')
      | (.error fault, c') => after (handler fault) c' := by
  change (ExceptT.tryCatch x handler).run.run c = _
  simp only [ExceptT.tryCatch, ExceptT.run_mk, StateT.run_bind]
  rcases hx : after x c with ⟨_ | a, c'⟩
  · change StateT.run x c = _ at hx
    rw [hx]
    rfl
  · change StateT.run x c = _ at hx
    rw [hx]
    rfl

theorem after_report (act : Action Writer α) :
    after (report act) c =
      ((act.perform c.session).1, { c with session := (act.perform c.session).2 }) := by
  unfold report
  simp only [after_bind, after_get, after_set]
  rcases act.perform c.session with ⟨_ | a, s⟩ <;> rfl

/-! ## Closing the hive -/

/-- The conversion once the hive was closed, or failed to close. -/
def closed (src : Source) (c : Conversion) : Conversion :=
  { c with closings := c.closings ++ [⟨src.close, c.session.output.tokens.size⟩] }

theorem after_close (src : Source) : after (close src) c = (src.close, closed src c) := by
  unfold close
  rw [after_bind]
  cases hclose : src.close with
  | ok _ => rw [closed, hclose]; rfl
  | error fault => rw [closed, hclose]; rfl

/-- The conversion with a line more in its log. -/
def logged (line : LogLine) (c : Conversion) : Conversion :=
  { c with session := { c.session with diagnostics := c.session.diagnostics.push (.log line) } }

/-- Behind a failure, only a fault of class `closing` is survived. -/
theorem after_closeAfterFailure (src : Source) :
    after (closeAfterFailure src) c = match src.close with
      | .ok _ => (.ok (), closed src c)
      | .error fault =>
        if fault.kind == .closing then (.ok (), logged (unreleased fault) (closed src c))
        else (.error fault, closed src c) := by
  unfold closeAfterFailure
  rw [after_tryCatch, after_close]
  cases src.close with
  | ok _ => rfl
  | error fault =>
    dsimp only
    split
    · exact after_report _ _
    · rfl

end Steps

/-! ## What follows the body -/

/-- What follows once all of the root's content is written and the hive is closed. -/
def completion (tally : Tally) : Step Tally := do
  report finish
  report <| Action.debug .conversion s!"hive converted: {Walk.describeTally tally}"
  return tally

/-- What follows a fault. -/
def giveUp (src : Source) (fault : Fault) : Step Tally := do
  closeAfterFailure src
  throw fault

variable {src : Source} {skipping : Bool} {c : Conversion} {s : Session Writer}

/-- **Behind a complete body** the hive is closed and the document completed. -/
theorem convert_of_ok {tally : Tally}
    (hbody : (body src skipping).perform c.session = (.ok tally, s)) :
    after (convert src skipping) c =
      after (do close src; completion tally) { c with session := s } := by
  unfold convert
  rw [after_bind, after_tryCatch, after_report, hbody]
  rfl

/-- **Behind a failure** the hive is closed, and the fault is raised. -/
theorem convert_of_error {fault : Fault}
    (hbody : (body src skipping).perform c.session = (.error fault, s)) :
    after (convert src skipping) c = after (giveUp src fault) { c with session := s } := by
  unfold convert
  rw [after_bind, after_tryCatch, after_report, hbody]
  dsimp only
  unfold giveUp
  rw [after_bind]
  rcases after (closeAfterFailure src) { c with session := s } with ⟨_ | _, c'⟩ <;> rfl

/-- Of two faults the first is raised, unless closing fails in a way that is not expected. -/
theorem after_giveUp (src : Source) (fault : Fault) (c : Conversion) :
    after (giveUp src fault) c = match src.close with
      | .ok _ => (.error fault, closed src c)
      | .error other =>
        if other.kind == .closing then (.error fault, logged (unreleased other) (closed src c))
        else (.error other, closed src c) := by
  unfold giveUp
  rw [after_bind, after_closeAfterFailure]
  cases src.close with
  | ok _ => rfl
  | error other =>
    by_cases hkind : (other.kind == .closing) = true
    · simp only [hkind, if_true, after_throw]
    · simp only [hkind, if_false, Bool.false_eq_true]

/-- What is left in the log of a failed conversion about closing its hive. -/
def releaseLog (src : Source) : List Diagnostic :=
  match src.close with
  | .ok _ => []
  | .error fault => [.log (unreleased fault)]

/-- **Giving up** closes the hive and writes nothing. It raises the fault, if the hive closes or
says properly that it does not. -/
theorem giveUp_spec (src : Source) (fault : Fault) (c : Conversion) :
    ∃ raised c', after (giveUp src fault) c = (.error raised, c') ∧
      c'.closings = (closed src c).closings ∧ c'.session.output = c.session.output ∧
      c'.session.policy = c.session.policy ∧
      (src.ClosesProperly → raised = fault ∧
        c'.session.diagnostics.toList = c.session.diagnostics.toList ++ releaseLog src) := by
  rw [after_giveUp]
  unfold releaseLog
  cases hsrc : src.close with
  | ok _ => exact ⟨fault, closed src c, rfl, rfl, rfl, rfl, fun _ => ⟨rfl, by simp [closed]⟩⟩
  | error other =>
    by_cases hkind : (other.kind == .closing) = true
    · refine ⟨fault, logged (unreleased other) (closed src c), if_pos hkind, rfl, rfl, rfl,
        fun _ => ⟨rfl, ?_⟩⟩
      rw [logged, closed, Array.toList_push]
    · exact ⟨other, closed src c, if_neg hkind, rfl, rfl, rfl,
        fun hclose => absurd (beq_iff_eq.mpr (hclose other hsrc)) hkind⟩

/-! ## From a configuration -/

/-- A valid configuration has a policy. -/
theorem exists_policy {config : Config} (h : config.complaints = .ok []) :
    ∃ policy, config.policy = .policy policy := by
  unfold Config.complaints at h
  split at h
  · cases h
  split at h
  · cases h
  split at h
  · cases h
  obtain ⟨hnone, -⟩ := List.append_eq_nil_iff.mp (Except.ok.inj h)
  cases hpolicy : config.policy with
  | policy p => exact ⟨p, rfl⟩
  | missing => simp [hpolicy] at hnone
  | text s => simp [hpolicy] at hnone

/-- The session that a conversion starts with. -/
def opening (config : Config) (device : Device) (policy : Policy) (trace : List LogLine) :
    Session Writer :=
  { output := { label := config.encoding, device := device }
    policy := policy
    diagnostics := (trace.map Diagnostic.log).toArray }

/-- What a conversion leaves behind that ends like this. -/
def Outcome.of (final : Except Fault Tally × Conversion) : Outcome :=
  { result := final.1
    document := final.2.session.output.bytes?
    policy := some final.2.session.policy
    diagnostics := final.2.session.diagnostics.toList
    closings := final.2.closings }

/-- The document that is left, if only in part. -/
theorem document_of (final : Except Fault Tally × Conversion) :
    (Outcome.of final).document.getD [] = final.2.session.output.bytes := rfl

/-- The bytes written are those of the tokens. -/
theorem bytes?_congr {w w' : Writer} (hlabel : w'.label = w.label)
    (htokens : w'.tokens = w.tokens) : w'.bytes? = w.bytes? := by
  unfold Writer.bytes? Writer.encode
  rw [hlabel, htokens]

/-- Letting go of a document leaves everything as it is but the state of the writer. -/
theorem run_eq (src : Source) (skipping : Bool) (c : Conversion) :
    ∃ w, run src skipping c = ((after (convert src skipping) c).1,
      { (after (convert src skipping) c).2 with
        session := { (after (convert src skipping) c).2.session with output := w } }) ∧
      w.label = (after (convert src skipping) c).2.session.output.label ∧
      w.tokens = (after (convert src skipping) c).2.session.output.tokens := by
  have hrun : run src skipping c = ((after (convert src skipping) c).1,
      (after (report (Action.write Writer.release)) (after (convert src skipping) c).2).2) := rfl
  obtain ⟨w, hrelease, hlabel, htokens⟩ :=
    Writer.call_release (after (convert src skipping) c).2.session.output
  rw [hrun, after_report, perform_write, hrelease]
  exact ⟨w, rfl, hlabel, htokens⟩

theorem outcome_run (src : Source) (skipping : Bool) (c : Conversion) :
    Outcome.of (run src skipping c) = Outcome.of (after (convert src skipping) c) := by
  obtain ⟨w, hrun, hlabel, htokens⟩ := run_eq src skipping c
  rw [hrun]
  simp only [Outcome.of, bytes?_congr hlabel htokens]

/-- **A conversion from a configuration.** -/
theorem convertWith_eq {config : Config} {policy : Policy} (hvalid : config.complaints = .ok [])
    (hpolicy : config.policy = .policy policy) (device : Device) (src : Source)
    (trace : List LogLine) :
    convertWith config device (.ok src, trace) =
      .of (after (convert src config.skipBad)
        { session := opening config device policy trace }) := by
  rw [← outcome_run]
  unfold convertWith
  rw [hpolicy, hvalid]
  rfl

/-- What keeps a conversion from starting, with the log that it leaves then. -/
def hindrance? (config : Config) (opened : Except Fault Source × List LogLine) :
    Option (Fault × List Diagnostic) :=
  match config.policy, config.complaints with
  | .policy _, .ok [] => match opened.1 with
    | .error fault => some (fault, opened.2.map .log)
    | .ok _ => none
  | _, .ok complaints => some (.invalidConfiguration complaints, [])
  | _, .error fault => some (fault, [])

/-- It does not depend on what the policy is. -/
theorem hindrance?_policy (config : Config) (p q : Policy)
    (opened : Except Fault Source × List LogLine) :
    hindrance? { config with policy := .policy p } opened =
      hindrance? { config with policy := .policy q } opened := by
  have hcomplaints : { config with policy := .policy p }.complaints =
      { config with policy := .policy q }.complaints := rfl
  unfold hindrance?
  rw [hcomplaints]
  generalize { config with policy := .policy q }.complaints = found
  rcases found with _ | _ | _ <;> rfl

/-- A conversion that does not start writes nothing and closes nothing. -/
theorem convertWith_of_hindrance {config : Config} {opened : Except Fault Source × List LogLine}
    {fault : Fault} {ds : List Diagnostic} (h : hindrance? config opened = some (fault, ds))
    (device : Device) :
    convertWith config device opened =
      { result := .error fault, policy := config.policy.policy?, diagnostics := ds } := by
  unfold hindrance? at h
  unfold convertWith
  generalize config.policy = choice at h ⊢
  generalize config.complaints = found at h ⊢
  rcases opened with ⟨reason | src, trace⟩ <;>
    rcases found with cause | _ | ⟨complaint, complaints⟩ <;>
    cases choice <;> cases h <;> rfl

theorem hindrance?_eq_none {config : Config} {opened : Except Fault Source × List LogLine}
    (h : hindrance? config opened = none) :
    config.complaints = .ok [] ∧ (∃ policy, config.policy = .policy policy) ∧
      ∃ src, opened.1 = .ok src := by
  unfold hindrance? at h
  split at h
  next policy hpolicy hvalid =>
    cases hopened : opened.1 with
    | error fault =>
      rw [hopened] at h
      cases h
    | ok src => exact ⟨hvalid, ⟨policy, hpolicy⟩, src, rfl⟩
  · cases h
  · cases h

end Conversion

end HiveDump
