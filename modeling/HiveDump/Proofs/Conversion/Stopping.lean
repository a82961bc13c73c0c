import HiveDump.Proofs.Conversion.Callbacks
import HiveDump.Proofs.Conversion.Losses

/-!
# Where a conversion stops

`Event.stop?` tells of an event of a walk whether a report ends there, and with which fault: at
something malformed unless that is skipped, at what ends every walk, and at a node about whose time
stamp a question fails for good. Where everything else that is asked is answered or survived
(`Event.Shows`), and no policy raises, nothing else stops a conversion to UTF-8: it ends with the
fault of the first event that stops it, and completes its document if there is none.

Results:
* `step_passes`, `step_stops`: one event;
* **`told_passes`**, **`told_stops`**: a stretch of a walk;
* **`convertWith_passes`**, **`convertWith_stops`**: whole conversions.
-/

namespace HiveDump

open HiveDump.Action Walk

namespace Event

/-- The fault that ends a report at an event, if one does. -/
def stop? (src : Source) (skipping : Bool) : Event → Option Fault
  | enter n => match src.timestamp n with
    | .ok _ => none
    | .error fault => if fault.isRecoverable then none else some fault
  | malformed fault list n =>
    if skipping then none else some (.aborted list.operation n.handle fault)
  | failed fault => some fault
  | _ => none

/-- Whether a value can be shown, and whatever else is asked about an event but the time stamp of a
node is answered or survived. -/
def Shows (src : Source) : Event → Prop
  | enter n => Report.Survives (Report.nodeRuns src n)
  | value _ v =>
    (∃ shown, Report.valueShown v = .ok shown) ∧ Report.Survives (Report.valueRuns src v)
  | _ => True

theorem stop?_enter_eq_none {src : Source} {skipping : Bool} {n : Node} :
    (enter n).stop? src skipping = none ↔ Report.Survives (src.timestamp n) := by
  cases hstamp : src.timestamp n <;> simp [stop?, Report.Survives, hstamp]

theorem stop?_enter_eq_some {src : Source} {skipping : Bool} {n : Node} {fault : Fault} :
    (enter n).stop? src skipping = some fault ↔
      src.timestamp n = .error fault ∧ fault.isRecoverable = false := by
  cases hstamp : src.timestamp n with
  | ok ticks => simp [stop?, hstamp]
  | error other =>
    simp only [stop?, hstamp, Except.error.injEq, Option.ite_none_left_eq_some, Option.some.injEq,
      Bool.not_eq_true]
    constructor
    · rintro ⟨hr, rfl⟩
      exact ⟨rfl, hr⟩
    · rintro ⟨rfl, hr⟩
      exact ⟨hr, rfl⟩

end Event

namespace Report

open Markup Markup.Tree

variable {src : Source} {skipping : Bool} {ev : Event} {before after evs : List Event}
  {d d' : Nat} {s : Session Writer} {fault : Fault}

/-! ## One event -/

/-- An event that is known to pass leaves the document in order, and the policy one that never
raises. -/
theorem Passes.deep {given : List Policy.Submission} {change : Tally → Tally} {g : Growing}
    {behind : Policy → Growing} (h : Passes "utf-8" src skipping [ev] given change g behind)
    (hdepth : ev.depth? d = some d') (hstands : Stands "utf-8" g s.output) (hs : Deep d s.output)
    (hp : s.policy.NeverRaises) :
    ∃ t, (step skipping (visitor src) ev).perform s = (.ok (), t) ∧ Deep d' t.output ∧
      t.policy.NeverRaises := by
  obtain ⟨w, ds, htold, -⟩ := h s hstands hp
  rw [told_singleton] at htold
  refine ⟨_, htold, ?_, hp.after given⟩
  rcases yields_step src skipping hdepth s hs with ⟨_, t, ht, hdeep⟩ | ⟨fault, t, ht, -⟩
  · obtain ⟨-, rfl⟩ := Prod.mk.inj (ht.symm.trans htold)
    exact hdeep
  · cases ht.symm.trans htold

/-- **An event that does not stop a report** passes. -/
theorem step_passes (hdepth : ev.depth? d = some d') (hshows : ev.Shows src)
    (hpass : ev.stop? src skipping = none) (hs : Deep d s.output) (hp : s.policy.NeverRaises) :
    ∃ t, (step skipping (visitor src) ev).perform s = (.ok (), t) ∧ Deep d' t.output ∧
      t.policy.NeverRaises := by
  obtain ⟨g, hroot, -, hpage⟩ := id hs
  cases ev with
  | note line => exact (passes_note line).deep hdepth hpage.stands hs hp
  | enter n =>
    have hstamp := Event.stop?_enter_eq_none.mp hpass
    exact (passes_enter hstamp hshows).deep hdepth hpage.stands hs hp
  | value n v =>
    obtain ⟨⟨shown, hshown⟩, hruns⟩ := hshows
    exact (passes_value (outer_ne_nil_of_rooted hroot) hshown hruns).deep hdepth hpage.stands hs hp
  | leave n =>
    cases d with
    | zero => cases hdepth
    | succ depth =>
      cases hdepth
      rcases yields_nodeEnd s hs with ⟨_, t, ht, hdeep⟩ | ⟨_, _, _, hfalse⟩
      · refine ⟨t, ht, hdeep, ?_⟩
        obtain ⟨-, rfl⟩ := Prod.mk.inj ((perform_write Writer.endElement s).symm.trans ht)
        exact hp
      · exact hfalse.elim
  | malformed fault list n =>
    cases skipping with
    | true => exact (passes_malformed fault list n).deep hdepth hpage.stands hs hp
    | false => cases hpass
  | failed fault => cases hpass

/-- **An event that stops a report** ends it with its fault. -/
theorem step_stops (hstop : ev.stop? src skipping = some fault) (hs : Deep d s.output)
    (hp : s.policy.NeverRaises) :
    ∃ t, (step skipping (visitor src) ev).perform s = (.error fault, t) := by
  cases ev with
  | enter n =>
    obtain ⟨hstamp, hr⟩ := Event.stop?_enter_eq_some.mp hstop
    obtain ⟨g, -, -, hpage⟩ := hs
    obtain ⟨given, w, hdoes⟩ := nodeStart_fails (.inl hstamp) hr hpage.stands s.policy
    obtain ⟨ds, hact⟩ :=
      hdoes.perform (s := { s with tally := { s.tally with nodes := s.tally.nodes + 1 } }) hp
    exact ⟨_, hact⟩
  | malformed other list n =>
    cases skipping with
    | true => cases hstop
    | false =>
      cases hstop
      exact ⟨s, rfl⟩
  | failed other =>
    cases hstop
    exact ⟨s, rfl⟩
  | note line => cases hstop
  | value n v => cases hstop
  | leave n => cases hstop

/-! ## Stretches of a walk -/

/-- **A stretch of a walk that nothing stops** comes to its end. -/
theorem told_passes (hdepth : depthBehind? evs d = some d') (hshows : ∀ ev ∈ evs, ev.Shows src)
    (hpass : ∀ ev ∈ evs, ev.stop? src skipping = none) (hs : Deep d s.output)
    (hp : s.policy.NeverRaises) :
    ∃ t, (told src skipping evs).perform s = (.ok (), t) ∧ Deep d' t.output ∧
      t.policy.NeverRaises := by
  induction evs generalizing d s with
  | nil =>
    cases hdepth
    exact ⟨s, rfl, hs, hp⟩
  | cons ev evs ih =>
    rw [depthBehind?_cons] at hdepth
    obtain ⟨depth, hev, hevs⟩ := Option.bind_eq_some_iff.mp hdepth
    obtain ⟨hshow, hshows⟩ := List.forall_mem_cons.mp hshows
    obtain ⟨hfirst, hpass⟩ := List.forall_mem_cons.mp hpass
    obtain ⟨t, ht, hdeep, hnever⟩ := step_passes hev hshow hfirst hs hp
    rw [told, perform_forM_cons, ht]
    exact ih hevs hshows hpass hdeep hnever

/-- **A stretch of a walk ends at the first event that stops it.** -/
theorem told_stops (hdepth : depthBehind? (before ++ ev :: after) d = some d')
    (hshows : ∀ ev ∈ before, ev.Shows src)
    (hpass : ∀ ev ∈ before, ev.stop? src skipping = none)
    (hstop : ev.stop? src skipping = some fault) (hs : Deep d s.output)
    (hp : s.policy.NeverRaises) :
    ∃ t, (told src skipping (before ++ ev :: after)).perform s = (.error fault, t) := by
  rw [depthBehind?_append] at hdepth
  obtain ⟨depth, hbefore, -⟩ := Option.bind_eq_some_iff.mp hdepth
  obtain ⟨t, ht, hdeep, hnever⟩ := told_passes hbefore hshows hpass hs hp
  obtain ⟨u, hu⟩ := step_stops hstop hdeep hnever
  refine ⟨u, ?_⟩
  rw [told_append, ht]
  dsimp only
  rw [told, perform_forM_cons, hu]

end Report

namespace Conversion

open Report

variable {src : Source} {skipping : Bool} {s : Session Writer} {ticks : Option Int}
  {before after : List Event} {ev : Event} {fault : Fault}

/-! ## Contents of documents -/

/-- The root of a document is opened, if the time of the hive is known. -/
theorem prologue_passes (hlast : src.lastModified = .ok ticks) (hstart : s.output = blank)
    (hp : s.policy.NeverRaises) :
    ∃ t, (prologue src).perform s = (.ok (), t) ∧ Deep 0 t.output ∧ t.policy.NeverRaises := by
  obtain ⟨w, hdoes, -⟩ := brings_prologue Writer.usable_utf8 hlast s.output hstart
  obtain ⟨ds, hprologue⟩ := hdoes.perform hp
  refine ⟨_, hprologue, ?_, hp⟩
  rcases yields_prologue src s hstart with ⟨_, t, ht, ts, -, hpage⟩ | ⟨fault, t, ht, -⟩
  · obtain ⟨-, rfl⟩ := Prod.mk.inj (ht.symm.trans hprologue)
    exact ⟨_, rooted_opened.add ts, rfl, hpage⟩
  · cases ht.symm.trans hprologue

theorem body_passes (hlast : src.lastModified = .ok ticks) (hstart : s.output = blank)
    (hp : s.policy.NeverRaises) (hshows : ∀ ev ∈ events src, ev.Shows src)
    (hpass : ∀ ev ∈ events src, ev.stop? src skipping = none) :
    ∃ tally t, (body src skipping).perform s = (.ok tally, t) ∧ Deep 0 t.output ∧
      t.policy.NeverRaises := by
  obtain ⟨t, hprologue, hdeep, hnever⟩ := prologue_passes hlast hstart hp
  obtain ⟨u, htold, hdeep', hnever'⟩ := told_passes (level_events src 0) hshows hpass hdeep hnever
  obtain ⟨ds, htally⟩ := perform_tellTally u
  have hevents : ((events src).forM (step skipping (visitor src))).perform t = (.ok (), u) := htold
  refine ⟨u.tally, { u with diagnostics := ds }, ?_, hdeep', hnever'⟩
  rw [perform_body_of_ok hprologue, perform_bind, hevents]
  exact htally

theorem body_stops (hlast : src.lastModified = .ok ticks) (hstart : s.output = blank)
    (hp : s.policy.NeverRaises) (hevents : events src = before ++ ev :: after)
    (hshows : ∀ ev ∈ before, ev.Shows src)
    (hpass : ∀ ev ∈ before, ev.stop? src skipping = none)
    (hstop : ev.stop? src skipping = some fault) :
    ∃ t, (body src skipping).perform s = (.error fault, t) := by
  obtain ⟨t, hprologue, hdeep, hnever⟩ := prologue_passes hlast hstart hp
  have hlevel := level_events src 0
  rw [hevents] at hlevel
  obtain ⟨u, htold⟩ := told_stops hlevel hshows hpass hstop hdeep hnever
  have hforM : ((events src).forM (step skipping (visitor src))).perform t = (.error fault, u) := by
    rw [hevents]
    exact htold
  refine ⟨u, ?_⟩
  rw [perform_body_of_ok hprologue, perform_bind, hforM]

/-- Behind all nodes the document holds trees in its root. -/
theorem stands_of_deep {w : Writer} (h : Deep 0 w) : ∃ ts, Stands "utf-8" (opened.add ts) w := by
  obtain ⟨⟨here, outer⟩, ⟨inner, hinner⟩, hnames, hpage⟩ := h
  dsimp only at hinner hnames
  subst hinner
  rw [List.map_append] at hnames
  obtain rfl : inner = [] := by
    have hlength := congrArg List.length hnames
    simpa [nodesOpen] using hlength
  exact ⟨here, hpage.stands⟩

/-! ## Conversions -/

variable {config : Config} {policy : Policy} {trace : List LogLine}

theorem output_opening (policy : Policy) (trace : List LogLine)
    (hencoding : config.encoding = "utf-8") :
    (opening config .working policy trace).output = blank := by
  rw [opening, hencoding]
  rfl

/-- **A conversion that nothing stops** completes its document. -/
theorem convertWith_passes (hvalid : config.complaints = .ok [])
    (hencoding : config.encoding = "utf-8") (hpolicy : config.policy = .policy policy)
    (hp : policy.NeverRaises) (hlast : src.lastModified = .ok ticks) (hclose : src.close = .ok ())
    (hshows : ∀ ev ∈ events src, ev.Shows src)
    (hpass : ∀ ev ∈ events src, ev.stop? src config.skipBad = none) :
    ∃ tally, (convertWith config .working (.ok src, trace)).result = .ok tally := by
  obtain ⟨tally, t, hbody, hdeep, hnever⟩ := body_passes hlast
    (output_opening policy trace hencoding) hp hshows hpass
  obtain ⟨ts, hstands⟩ := stands_of_deep hdeep
  obtain ⟨c, hafter, -⟩ := convert_of_body hbody hnever hclose hstands
  refine ⟨tally, ?_⟩
  rw [convertWith_eq hvalid hpolicy, hafter]
  rfl

/-- **A conversion ends with the fault of the first event that stops it.** -/
theorem convertWith_stops (hvalid : config.complaints = .ok [])
    (hencoding : config.encoding = "utf-8") (hpolicy : config.policy = .policy policy)
    (hp : policy.NeverRaises) (hlast : src.lastModified = .ok ticks) (hclose : src.ClosesProperly)
    (hevents : events src = before ++ ev :: after) (hshows : ∀ ev ∈ before, ev.Shows src)
    (hpass : ∀ ev ∈ before, ev.stop? src config.skipBad = none)
    (hstop : ev.stop? src config.skipBad = some fault) :
    (convertWith config .working (.ok src, trace)).result = .error fault := by
  obtain ⟨t, hbody⟩ := body_stops hlast (output_opening policy trace hencoding) hp hevents hshows
    hpass hstop
  obtain ⟨raised, c, hgiveUp, -, -, -, hproper⟩ := giveUp_spec src fault { session := t }
  obtain ⟨rfl, -⟩ := hproper hclose
  rw [convertWith_eq hvalid hpolicy,
    convert_of_error (c := { session := opening config .working policy trace }) hbody, hgiveUp]
  rfl

end Conversion

end HiveDump
