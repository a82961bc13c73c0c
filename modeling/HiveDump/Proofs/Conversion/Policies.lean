import HiveDump.Proofs.Conversion.Closing
import HiveDump.Proofs.Markup.Prefix

/-!
# Conversions under different policies

The policies that record, that give up after a number of faults and that give up at once are given
the same faults at the same points of the document, up to the one where they give up. So everything
about the last two can be told from the faults that a collecting conversion records.

Results:
* `meet_collect`, `meet_threshold`, `meet_threshold_full`, `meet_failFast`: the points of a line
  under each policy;
* **`exists_ending`**: what follows the content of a document does not depend on the policy;
* **`policies_agree`**: limited and failing conversions, told from the collecting one.
-/

namespace HiveDump

open Report

/-! ## Policies along a line -/

namespace Report.Point

/-- What a policy records at a point. -/
def entry (pt : Point) : Policy.Entry :=
  ⟨pt.given.target.location?, pt.given.operation, pt.given.fault⟩

/-- The fault that is submitted. -/
def fault (pt : Point) : Fault :=
  pt.given.fault

end Report.Point

namespace Policy

/-- The policy with what it records at points. -/
def recorded (p : Policy) (pts : List Point) : Policy :=
  { p with records := p.records ++ (pts.map Point.entry).toArray }

variable {p : Policy} {pts : List Point} {limit : Nat} {verbose : Bool}

theorem recorded_nil (p : Policy) : p.recorded [] = p := by
  simp [recorded]

theorem recorded_cons (p : Policy) (pt : Point) (pts : List Point) :
    p.recorded (pt :: pts) =
      (p.record pt.given.fault pt.given.operation pt.given.target).recorded pts := by
  simp [recorded, record, Point.entry]

theorem recorded_append (p : Policy) (pts pts' : List Point) :
    p.recorded (pts ++ pts') = (p.recorded pts).recorded pts' := by
  simp [recorded]

theorem size_recorded (p : Policy) (pts : List Point) :
    (p.recorded pts).records.size = p.records.size + pts.length := by
  simp [recorded]

/-- A collecting policy records every fault. -/
theorem meet_collect (hj : p.judge = none) (hr : p.rule = .collect) :
    p.meet pts = (p.recorded pts, none) := by
  induction pts generalizing p with
  | nil => rw [recorded_nil]; rfl
  | cons pt pts ih =>
    unfold meet
    rw [handle_of_judge_none hj, ruled, hr, recorded_cons]
    exact ih hj hr

/-- A policy that gives up at once records nothing. -/
theorem meet_failFast (hj : p.judge = none) (hr : p.rule = .failFast) (pt : Point)
    (pts : List Point) : p.meet (pt :: pts) = (p, some (pt.fault, pt)) := by
  unfold meet
  rw [handle_of_judge_none hj, ruled, hr]
  rfl

/-- A policy with a limit records every fault up to the limit. -/
theorem meet_threshold (hj : p.judge = none) (hr : p.rule = .threshold limit verbose)
    (hroom : p.records.size + pts.length ≤ limit) : p.meet pts = (p.recorded pts, none) := by
  induction pts generalizing p with
  | nil => rw [recorded_nil]; rfl
  | cons pt pts ih =>
    rw [List.length_cons] at hroom
    have hbelow : ¬(limit : Int) < ↑(p.records.size + 1) := by omega
    unfold meet
    rw [handle_of_judge_none hj, ruled, hr]
    dsimp only
    rw [if_neg hbelow, recorded_cons]
    refine ih hj hr ?_
    rw [record, Array.size_push]
    omega

/-- At the limit it gives up at the next fault, which it records too. -/
theorem meet_full (hj : p.judge = none) (hr : p.rule = .threshold limit verbose)
    (hfull : p.records.size = limit) (pt : Point) (behind : List Point) :
    p.meet (pt :: behind) = (p.recorded [pt], some (.thresholdExceeded limit pt.fault, pt)) := by
  have habove : (limit : Int) < ↑(p.records.size + 1) := by omega
  unfold meet
  rw [handle_of_judge_none hj, ruled, hr]
  dsimp only
  rw [if_pos habove, recorded_cons, recorded_nil]
  rfl

theorem meet_threshold_full (hj : p.judge = none) (hr : p.rule = .threshold limit verbose)
    (hfull : p.records.size + pts.length = limit) (pt : Point) (behind : List Point) :
    p.meet (pts ++ pt :: behind) =
      (p.recorded (pts ++ [pt]), some (.thresholdExceeded limit pt.fault, pt)) := by
  rw [meet_append, meet_threshold hj hr (Nat.le_of_eq hfull), recorded_append]
  exact meet_full (p := p.recorded pts) hj hr ((size_recorded p pts).trans hfull) pt behind

end Policy

namespace Conversion

open Writer HiveDump.Action

/-! ## Behind the content -/

/-- How a conversion ends behind a content that ended with `content` at these states of the writer
and the tally, whatever the policy has become. -/
def EndsAs (src : Source) (skipping : Bool) (content : Except Fault Tally) (output : Writer)
    (tally : Tally) (result : Except Fault Tally) (final : Writer) : Prop :=
  ∀ s policy ds, (body src skipping).perform s = (content, ⟨output, policy, tally, ds⟩) →
    ∃ c, after (convert src skipping) { session := s } = (result, c) ∧
      c.session.output = final ∧ c.session.policy = policy

variable {src : Source} {skipping : Bool} {output : Writer} {tally : Tally}

/-- A content that failed ends the conversion, if the hive closes or says properly that it does
not. -/
theorem endsAs_of_error (hclose : src.ClosesProperly) (fault : Fault) :
    EndsAs src skipping (.error fault) output tally (.error fault) output := by
  intro s policy ds hbody
  obtain ⟨raised, c, hgiveUp, -, houtput, hpolicy, hproper⟩ :=
    giveUp_spec src fault { session := ⟨output, policy, tally, ds⟩ }
  obtain ⟨rfl, -⟩ := hproper hclose
  rw [convert_of_error (c := { session := s }) hbody, hgiveUp]
  exact ⟨c, rfl, houtput, hpolicy⟩

/-- The end of a document consults no policy. -/
theorem finish_straight (hrooted : Names [rootName] output) (tally : Tally) :
    ∃ result final, Continues output final ∧ ∀ policy ds, ∃ ds' tally',
      finish.perform ⟨output, policy, tally, ds⟩ = (result, ⟨final, policy, tally', ds'⟩) := by
  have hfinish : Charts "" (some []) [rootName] finish fun _ => [] := charts_finish (by decide)
  obtain ⟨c, hfollows, hc⟩ := hfinish output tally hrooted
  cases hc with
  | submits once => cases once
  | @ends _ final tally' result grows =>
    refine ⟨result, final, grows, fun policy ds => ?_⟩
    obtain ⟨ds', hperform⟩ := hfollows policy ds
    exact ⟨ds', tally', hperform⟩

theorem endsAs_of_ok (src : Source) (skipping : Bool) (hrooted : Names [rootName] output)
    (tally counted : Tally) :
    ∃ result final, Continues output final ∧
      EndsAs src skipping (.ok counted) output tally result final := by
  cases hclose : src.close with
  | error fault =>
    refine ⟨.error fault, output, .refl output, fun s policy ds hbody => ?_⟩
    rw [convert_of_ok (c := { session := s }) hbody, after_bind, after_close, hclose]
    exact ⟨_, rfl, rfl, rfl⟩
  | ok _ =>
    obtain ⟨result, final, hgrows, hfinish⟩ := finish_straight hrooted tally
    refine ⟨result.map fun _ => counted, final, hgrows, fun s policy ds hbody => ?_⟩
    obtain ⟨ds', tally', hperform⟩ := hfinish policy ds
    rw [convert_of_ok (c := { session := s }) hbody, after_bind, after_close, hclose]
    have hcomplete : finish.perform
        (closed src { session := ⟨output, policy, tally, ds⟩ }).session =
          (result, ⟨final, policy, tally', ds'⟩) := hperform
    unfold completion
    dsimp only
    rw [after_bind, after_report, hcomplete]
    cases result with
    | error fault => exact ⟨_, rfl, rfl, rfl⟩
    | ok _ => exact ⟨_, rfl, rfl, rfl⟩

/-- **What follows a content does not depend on the policy**, and takes nothing back. -/
theorem exists_ending (hclose : src.ClosesProperly) (skipping : Bool)
    {content : Except Fault Tally} (tally : Tally)
    (hrooted : ∀ counted, content = .ok counted → Names [rootName] output) :
    ∃ result final, Continues output final ∧
      EndsAs src skipping content output tally result final := by
  cases content with
  | error fault => exact ⟨.error fault, output, .refl output, endsAs_of_error hclose fault⟩
  | ok counted => exact endsAs_of_ok src skipping (hrooted counted rfl) tally counted

/-! ## Conversions under a rule -/

/-- A conversion with a new policy that follows a rule. -/
def under (config : Config) (device : Device) (opened : Except Fault Source × List LogLine)
    (rule : Policy.Rule) : Outcome :=
  convertWith { config with policy := .policy { rule := rule } } device opened

/-- How conversions go that differ in their rules only: the points where a fault is submitted, and
the end if nothing is raised. -/
structure Runs (run : Policy.Rule → Outcome) (points : List Point) (result : Except Fault Tally)
    (final : Writer) : Prop where
  grows : ∀ pt ∈ points, Continues pt.output final
  complete : ∀ rule policy, Policy.meet { rule := rule } points = (policy, none) →
    (run rule).result = result ∧ (run rule).document = final.bytes? ∧
      (run rule).policy = some policy
  stopped : ∀ rule policy raised pt,
    Policy.meet { rule := rule } points = (policy, some (raised, pt)) →
      (run rule).result = .error raised ∧ (run rule).document = pt.output.bytes? ∧
        (run rule).policy = some policy

/-- Conversions that start. -/
theorem exists_runs_of_valid {config : Config} {src : Source}
    (hvalid : ∀ rule, { config with policy := .policy { rule := rule } }.complaints = .ok [])
    (hclose : src.ClosesProperly) (device : Device) (trace : List LogLine) :
    ∃ points result final, Runs (under config device (.ok src, trace)) points result final := by
  let start : Writer := { label := config.encoding, device := device }
  obtain ⟨c, hfollows, hc⟩ := charts_body src config.skipBad start {} rfl
  obtain ⟨-, hpoints, hnames⟩ := hc.line
  obtain ⟨result, final, hgrows, hends⟩ :=
    exists_ending hclose config.skipBad c.line.tally hnames
  have hrun (rule : Policy.Rule) : under config device (.ok src, trace) rule =
      .of (after (convert src config.skipBad)
        { session := opening config device { rule := rule } trace }) :=
    convertWith_eq (hvalid rule) rfl device src trace
  have hperform (rule : Policy.Rule) : ∃ ds,
      (body src config.skipBad).perform (opening config device { rule := rule } trace) =
        c.line.under { rule := rule } ds := by
    obtain ⟨ds, hbody⟩ := hfollows { rule := rule } _
    exact ⟨ds, hbody.trans (c.under_of_judge_none rfl ds)⟩
  refine ⟨c.line.points, result, final, fun pt hpt => (hpoints pt hpt).trans hgrows, ?_, ?_⟩
  · intro rule policy hmeet
    obtain ⟨ds, hbody⟩ := hperform rule
    rw [Line.under, hmeet] at hbody
    obtain ⟨c', hafter, houtput, hpolicy⟩ := hends _ policy ds hbody
    rw [hrun, hafter]
    exact ⟨rfl, congrArg Writer.bytes? houtput, congrArg some hpolicy⟩
  · intro rule policy raised pt hmeet
    obtain ⟨ds, hbody⟩ := hperform rule
    rw [Line.under, hmeet] at hbody
    obtain ⟨c', hafter, houtput, hpolicy⟩ := endsAs_of_error hclose raised _ policy ds hbody
    rw [hrun, hafter]
    exact ⟨rfl, congrArg Writer.bytes? houtput, congrArg some hpolicy⟩

/-- Conversions, whether or not they start. -/
theorem exists_runs (config : Config) (device : Device)
    (opened : Except Fault Source × List LogLine)
    (hclose : ∀ src, opened.1 = .ok src → src.ClosesProperly) :
    ∃ points result final, Runs (under config device opened) points result final := by
  -- What keeps a conversion from starting does not depend on the rule.
  cases hhindrance : hindrance? { config with policy := .policy Policy.standard } opened with
  | none =>
    obtain ⟨hvalid, -, src, hsrc⟩ := hindrance?_eq_none hhindrance
    obtain ⟨_, trace⟩ := opened
    subst hsrc
    exact exists_runs_of_valid (fun _ => hvalid) (hclose src rfl) device trace
  | some hindrance =>
    have hany (rule : Policy.Rule) :
        hindrance? { config with policy := .policy { rule := rule } } opened = some hindrance :=
      (hindrance?_policy config _ _ opened).trans hhindrance
    have hrun (rule : Policy.Rule) : under config device opened rule =
        { result := .error hindrance.1, policy := some { rule := rule }
          diagnostics := hindrance.2 } := convertWith_of_hindrance (hany rule) device
    refine ⟨[], .error hindrance.1, { label := config.encoding }, fun _ hpt => (nomatch hpt),
      ?_, ?_⟩
    · rintro rule policy ⟨⟩
      rw [hrun]
      exact ⟨rfl, rfl, rfl⟩
    · exact fun _ _ _ _ hmeet => nomatch hmeet

/-! ## Policies compared -/

/-- The faults that the policy of a conversion has recorded. -/
def Outcome.faults (o : Outcome) : List Fault :=
  match o.policy with
  | some p => p.records.toList.map (·.fault)
  | none => []

/-- How many faults the policy of a conversion has recorded. -/
def Outcome.errorCount (o : Outcome) : Nat :=
  match o.policy with
  | some p => p.count
  | none => 0

theorem faults_recorded {o : Outcome} {rule : Policy.Rule} {pts : List Point}
    (h : o.policy = some (Policy.recorded { rule := rule } pts)) :
    o.faults = pts.map Point.fault := by
  simp [Outcome.faults, h, Policy.recorded, Point.entry, Point.fault]

theorem errorCount_recorded {o : Outcome} {rule : Policy.Rule} {pts : List Point}
    (h : o.policy = some (Policy.recorded { rule := rule } pts)) :
    o.errorCount = pts.length := by
  simp [Outcome.errorCount, h, Policy.count, Policy.recorded]

variable {run : Policy.Rule → Outcome} {points : List Point} {result : Except Fault Tally}
  {final : Writer}

theorem Runs.collecting (h : Runs run points result final) :
    (run .collect).result = result ∧ (run .collect).document = final.bytes? ∧
      (run .collect).faults = points.map Point.fault := by
  obtain ⟨hresult, hdocument, hpolicy⟩ := h.complete .collect _ (Policy.meet_collect rfl rfl)
  exact ⟨hresult, hdocument, faults_recorded hpolicy⟩

theorem Runs.within (h : Runs run points result final) {limit : Nat} (verbose : Bool)
    (hlimit : points.length ≤ limit) :
    (run (.threshold limit verbose)).result = result ∧
      (run (.threshold limit verbose)).document = final.bytes? ∧
      (run (.threshold limit verbose)).errorCount = points.length := by
  obtain ⟨hresult, hdocument, hpolicy⟩ := h.complete (.threshold limit verbose) _
    (Policy.meet_threshold rfl rfl (by simpa using hlimit))
  exact ⟨hresult, hdocument, errorCount_recorded hpolicy⟩

/-- A limited conversion gives up at the first fault behind its limit. -/
theorem Runs.beyond (h : Runs run points result final) {limit : Nat} (verbose : Bool) {pt : Point}
    (hpt : points[limit]? = some pt) :
    (run (.threshold limit verbose)).result = .error (.thresholdExceeded limit pt.fault) ∧
      (run (.threshold limit verbose)).document = pt.output.bytes? ∧
      (run (.threshold limit verbose)).errorCount = limit + 1 := by
  obtain ⟨hlt, rfl⟩ := List.getElem?_eq_some_iff.mp hpt
  have hsplit : points = points.take limit ++ points[limit] :: points.drop (limit + 1) := by
    rw [List.getElem_cons_drop, List.take_append_drop]
  have hlength : (points.take limit).length = limit := List.length_take_of_le (Nat.le_of_lt hlt)
  have hmeet := Policy.meet_threshold_full (p := { rule := .threshold limit verbose }) rfl rfl
    ((Nat.zero_add _).trans hlength) points[limit] (points.drop (limit + 1))
  rw [← hsplit] at hmeet
  obtain ⟨hresult, hdocument, hpolicy⟩ := h.stopped _ _ _ _ hmeet
  refine ⟨hresult, hdocument, ?_⟩
  rw [errorCount_recorded hpolicy, List.length_append, hlength, List.length_singleton]

/-- A failing conversion gives up at the first fault. -/
theorem Runs.atOnce (h : Runs run points result final) {pt : Point}
    (hpt : points[0]? = some pt) :
    (run .failFast).result = .error pt.fault ∧ (run .failFast).document = pt.output.bytes? := by
  cases points with
  | nil => cases hpt
  | cons first points =>
    cases hpt
    obtain ⟨hresult, hdocument, -⟩ :=
      h.stopped .failFast _ _ _ (Policy.meet_failFast rfl rfl pt points)
    exact ⟨hresult, hdocument⟩

/-- **Limited and failing conversions, told from the collecting one.** -/
theorem policies_agree (config : Config) (device : Device)
    (opened : Except Fault Source × List LogLine)
    (hclose : ∀ src, opened.1 = .ok src → src.ClosesProperly) (limit : Nat) (verbose : Bool) :
    let collecting := under config device opened .collect
    let limited := under config device opened (.threshold limit verbose)
    let failing := under config device opened .failFast
    (collecting.faults.length ≤ limit →
      limited.document = collecting.document ∧ limited.result = collecting.result ∧
        limited.errorCount = collecting.faults.length) ∧
    (limit < collecting.faults.length →
      ∃ fault raised, collecting.faults[limit]? = some fault ∧
        limited.result = .error raised ∧ raised.kind = .aborted ∧ raised.origin? = some fault ∧
        limited.errorCount = limit + 1 ∧
        limited.document.getD [] <+: collecting.document.getD []) ∧
    (0 < collecting.faults.length →
      ∃ first, collecting.faults[0]? = some first ∧ failing.result = .error first ∧
        failing.document = (under config device opened (.threshold 0 verbose)).document) := by
  intro collecting limited failing
  obtain ⟨points, result, final, hruns⟩ := exists_runs config device opened hclose
  obtain ⟨hresult, hdocument, hfaults⟩ := hruns.collecting
  rw [hfaults, List.length_map]
  refine ⟨fun hlimit => ?_, fun hlimit => ?_, fun hsome => ?_⟩
  · obtain ⟨hlimited, hwritten, hcount⟩ := hruns.within verbose hlimit
    exact ⟨hwritten.trans hdocument.symm, hlimited.trans hresult.symm, hcount⟩
  · have hpt := List.getElem?_eq_getElem hlimit
    obtain ⟨hlimited, hwritten, hcount⟩ := hruns.beyond verbose hpt
    refine ⟨_, _, by rw [List.getElem?_map, hpt]; rfl, hlimited, rfl, rfl, hcount, ?_⟩
    rw [hwritten, hdocument]
    exact (hruns.grows _ (List.getElem_mem hlimit)).bytes
  · have hpt := List.getElem?_eq_getElem hsome
    obtain ⟨hfailing, hwritten⟩ := hruns.atOnce hpt
    obtain ⟨-, hatOnce, -⟩ := hruns.beyond verbose hpt
    exact ⟨_, by rw [List.getElem?_map, hpt]; rfl, hfailing, hwritten.trans hatOnce.symm⟩

theorem faults_damaged : (under {} .working (.ok (damaged true).source, []) .collect).faults =
    [.missingAttributeData (some "value"), .lostDataCell 4216] := by
  have hvalid : ({ policy := .policy { rule := .collect } } : Config).complaints = .ok [] :=
    complaints_standard
  rw [under, convertWith_eq hvalid rfl]
  unfold convert body Walk.run
  rw [events_damaged]
  decide +kernel

/-- A hive with two faults that does not close either. -/
theorem policies_agree_damaged :
    (∀ src, (Except.ok (damaged true).source : Except Fault Source) = .ok src →
      src.ClosesProperly) ∧
    (∃ raised, (under {} .working (.ok (damaged true).source, []) (.threshold 1 true)).result =
      .error raised ∧ raised.origin? = some (.lostDataCell 4216)) ∧
    (under {} .working (.ok (damaged true).source, []) .failFast).result =
      .error (.missingAttributeData (some "value")) := by
  have hclose : ∀ src, (Except.ok (damaged true).source : Except Fault Source) = .ok src →
      src.ClosesProperly := by
    rintro _ ⟨⟩
    exact closesProperly_memory _
  obtain ⟨-, hlimited, hfailing⟩ :=
    policies_agree {} .working (.ok (damaged true).source, []) hclose 1 true
  rw [faults_damaged] at hlimited hfailing
  obtain ⟨fault, raised, hfault, hraised, -, horigin, -⟩ := hlimited (by decide)
  obtain ⟨first, hfirst, hresult, -⟩ := hfailing (by decide)
  cases hfault
  cases hfirst
  exact ⟨hclose, ⟨raised, hraised, horigin⟩, hresult⟩

end Conversion

end HiveDump
