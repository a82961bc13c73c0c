import HiveDump.Proofs.Report.Started
import HiveDump.Proofs.Walk.Tallied

/-!
# The books of a run

A run keeps its books in four places: the walk keeps the tally, the policy its records, the user is
given warnings, and the elements stand in the document. Under a policy that resumes, the first three
agree at every point of every run (`InAccord`): each fault that is recorded is warned of once if the
policy is verbose, and each failed listing that is recorded is an entry that the walk has skipped.
The elements agree with the tally as long as nothing has failed (`Shows`).

Parts of a report leave a trail: they write, log, and submit faults that are no failed listings.
Only the walk counts, and only the walk submits failed listings.

Results:
* **`Composed.trail`**: what a part does besides its result;
* **`Trail.inAccord`**, **`Walk.inAccord_step`**: books stay in accord;
* **`Walk.shows_step`**: each step that succeeds shows what it counts.
-/

namespace HiveDump

open HiveDump.Action

/-- The warning of a verbose policy about a fault that it records. -/
def Policy.Entry.warning (e : Policy.Entry) : String :=
  let place := match e.location with
    | none => "unknown"
    | some "" => "unknown"
    | some text => text
  s!"WARNING: {e.operation} failed for {place}: {e.fault.message}, continuing"

/-- Whether the tally, the records and the warnings of a run tell the same, under a policy that
resumes. -/
structure Session.InAccord {δ : Type} (verbose : Bool) (s : Session δ) : Prop where
  rule : s.policy.rule = .resume verbose
  judge : s.policy.judge = none
  /-- Every entry that was skipped has its place among those that the policy has skipped. -/
  skipped : s.policy.skipped.length = s.tally.skipped
  /-- Every entry that was skipped was recorded as a failed listing, and nothing else was. -/
  listings : s.policy.records.toList.countP (·.operation.isListing) = s.tally.skipped
  /-- One warning for each record, in order, if the policy is verbose; else none. -/
  warnings : s.diagnostics.toList.filterMap Diagnostic.warning? =
    if verbose then s.policy.records.toList.map Policy.Entry.warning else []

theorem Target.place_ne_empty (name : Option String) (handle : Int) :
    Target.place name handle ≠ "" := by
  intro h
  have hat : toString "@" ≠ "" := by decide
  cases name <;> simp [Target.place, hat] at h

namespace Session.InAccord

variable {δ : Type} {verbose : Bool} {s : Session δ}

/-- A change that has nothing to do with the books. -/
theorem of_same {t : Session δ} (h : s.InAccord verbose) (hpolicy : t.policy = s.policy)
    (hskipped : t.tally.skipped = s.tally.skipped) (hdiagnostics : t.diagnostics = s.diagnostics) :
    t.InAccord verbose := by
  obtain ⟨rule, judge, skipped, listings, warnings⟩ := h
  rw [← hskipped] at skipped listings
  rw [← hdiagnostics] at warnings
  rw [← hpolicy] at rule judge skipped listings warnings
  exact ⟨rule, judge, skipped, listings, warnings⟩

theorem log (h : s.InAccord verbose) (line : LogLine) :
    Session.InAccord verbose { s with diagnostics := s.diagnostics.push (.log line) } := by
  refine ⟨h.rule, h.judge, h.skipped, h.listings, ?_⟩
  rw [Array.toList_push, List.filterMap_append, h.warnings]
  exact List.append_nil _

/-- A fault that was submitted: if it is a failed listing of a node, it is counted as skipped. -/
theorem submit (h : s.InAccord verbose) (fault : Fault) {op : Operation} {target : Target}
    (htarget : op.isListing = true → ∃ n, target = .node n) {tally : Tally}
    (htally : tally.skipped = s.tally.skipped + if op.isListing then 1 else 0) :
    Session.InAccord verbose
      { s with
        policy := (s.policy.handle fault op target).policy
        tally := tally
        diagnostics := warned s (s.policy.handle fault op target) } := by
  have hhandle : s.policy.handle fault op target =
      { outcome := .ok op.fallback
        policy := s.policy.record fault op target
        warning := if verbose then some (Policy.Entry.warning ⟨target.location?, op, fault⟩)
          else none } := by
    rw [Policy.handle_of_judge_none h.judge, Policy.ruled, h.rule]
    rfl
  have hrecords : (s.policy.record fault op target).records.toList =
      s.policy.records.toList ++ [⟨target.location?, op, fault⟩] := Array.toList_push
  rw [hhandle]
  refine ⟨h.rule, h.judge, ?_, ?_, ?_⟩
  · rw [htally, ← h.skipped, Policy.skipped, hrecords, List.filterMap_append, List.length_append]
    cases hop : op.isListing with
    | false => simp [Policy.skipped, hop]
    | true =>
      obtain ⟨n, rfl⟩ := htarget hop
      have hplace : Target.place n.name n.handle ≠ "" := Target.place_ne_empty _ _
      simp [Policy.skipped, Option.filter_some, hop, Target.location?, hplace]
  · rw [htally, ← h.listings, hrecords, List.countP_append, List.countP_singleton]
  · rw [hrecords, List.map_append]
    cases verbose with
    | false => exact h.warnings
    | true =>
      change List.filterMap _ (s.diagnostics.push (.warning _)).toList = _
      rw [Array.toList_push, List.filterMap_append, h.warnings]
      rfl

end Session.InAccord

namespace Report

variable {α : Type} {act : Action Writer α} {opens : String → Prop} {s t u : Session Writer}

/-- What parts of a report do besides their result: they write, log, and submit faults that are no
failed listings. -/
inductive Trail : Session Writer → Session Writer → Prop
  | refl (s : Session Writer) : Trail s s
  | write {s t : Session Writer} (h : Trail s t) (w : Writer) : Trail s { t with output := w }
  | log {s t : Session Writer} (h : Trail s t) (line : LogLine) :
    Trail s { t with diagnostics := t.diagnostics.push (.log line) }
  | submit {s t : Session Writer} (h : Trail s t) (fault : Fault) {op : Operation}
    (hop : op.isListing = false) (target : Target) :
    Trail s
      { t with
        policy := (t.policy.handle fault op target).policy
        diagnostics := warned t (t.policy.handle fault op target) }

theorem Trail.trans (h : Trail s t) (h' : Trail t u) : Trail s u := by
  induction h' with
  | refl => exact h
  | write _ w ih => exact ih.write w
  | log _ line ih => exact ih.log line
  | submit _ fault hop target ih => exact ih.submit fault hop target

theorem Trail.bind {β : Type} {next : α → Action Writer β}
    (h : ∀ s, Trail s (act.perform s).2) (hnext : ∀ a s, Trail s ((next a).perform s).2)
    (s : Session Writer) : Trail s ((act >>= next).perform s).2 := by
  have hact := h s
  rw [perform_bind]
  rcases hperform : act.perform s with ⟨fault | a, t⟩
  · rw [hperform] at hact
    exact hact
  · rw [hperform] at hact
    exact hact.trans (hnext a t)

theorem Bare.trail (h : Bare opens act) (s : Session Writer) : Trail s (act.perform s).2 := by
  induction h generalizing s with
  | pure a => exact .refl s
  | throw fault => exact .refl s
  | log line => exact (Trail.refl s).log line
  | call c hc hopens =>
    rw [perform_write]
    exact (Trail.refl s).write _
  | bind _ _ ihAct ihNext => exact Trail.bind ihAct ihNext s

/-- **What a part does besides its result.** -/
theorem Composed.trail (h : Composed opens act) (s : Session Writer) :
    Trail s (act.perform s).2 := by
  induction h generalizing s with
  | bare h => exact h.trail s
  | bind _ _ ihAct ihNext => exact Trail.bind ihAct ihNext s
  | @recover _ part op hop target goOn hpart =>
    have htrail := hpart.trail s
    rw [perform_recover]
    rcases hperform : part.perform s with ⟨fault | a, t⟩
    · rw [hperform] at htrail
      by_cases hr : fault.isRecoverable = true
      · dsimp only
        rw [if_pos hr]
        exact (htrail.log _).submit fault hop target
      · dsimp only
        rw [if_neg hr]
        exact htrail
    · rw [hperform] at htrail
      exact htrail

/-- Only the walk counts. -/
theorem Trail.tally (h : Trail s t) : t.tally = s.tally := by
  induction h with
  | refl => rfl
  | write _ _ ih | log _ _ ih | submit _ _ _ _ ih => exact ih

/-- **The books stay in accord** along a trail. -/
theorem Trail.inAccord {verbose : Bool} (h : Trail s t) (hs : s.InAccord verbose) :
    t.InAccord verbose := by
  induction h with
  | refl => exact hs
  | write _ w ih => exact ih.of_same rfl rfl rfl
  | log _ line ih => exact ih.log line
  | @submit t _ fault op hop target ih =>
    exact ih.submit fault (fun hlisting => by simp [hop] at hlisting) (by simp [hop])

/-! ## Elements -/

/-- Whether the nodes and values that were counted are those whose elements were started. -/
structure Shows (s : Session Writer) : Prop where
  nodes : s.output.started.count "node" = s.tally.nodes
  values : s.output.started.count "value" = s.tally.values
  unmixed : s.output.Unmixed

/-- What starts so many nodes and values more shows these. -/
theorem Shows.of_starts (h : Shows s) {names : List String}
    (hstarts : Writer.Starts names s.output t.output)
    (hnodes : t.tally.nodes = s.tally.nodes + names.count "node")
    (hvalues : t.tally.values = s.tally.values + names.count "value") : Shows t := by
  refine ⟨?_, ?_, hstarts.unmixed h.unmixed⟩
  · rw [hstarts.started, List.count_append, h.nodes, hnodes]
  · rw [hstarts.started, List.count_append, h.values, hvalues]

theorem Only.count_eq_zero {names : List String} (h : Only opens names) {name : String}
    (hname : ¬opens name) : names.count name = 0 :=
  List.count_eq_zero.mpr fun hmem => hname (h name hmem)

theorem not_inner_node : ¬Inner "node" := by
  unfold Inner
  decide

theorem not_inner_value : ¬Inner "value" := by
  unfold Inner
  decide

variable {a : α}

/-- A part that starts no node and no value. -/
theorem Composed.shows (h : Composed opens act) (hnode : ¬opens "node") (hvalue : ¬opens "value")
    (hs : Shows s) (hact : act.perform s = (.ok a, t)) : Shows t := by
  obtain ⟨names, honly, hstarts⟩ := h.starts s (by rw [hact]; nofun)
  have htally := (h.trail s).tally
  rw [hact] at hstarts htally
  exact hs.of_starts hstarts (by rw [htally, honly.count_eq_zero hnode]; rfl)
    (by rw [htally, honly.count_eq_zero hvalue]; rfl)

/-- Entering a node starts one node and no value. -/
theorem nodeStart_starts {src : Source} {n : Node}
    (h : (nodeStart src n).perform s = (.ok (), t)) :
    ∃ names, Writer.Starts names s.output t.output ∧ names.count "node" = 1 ∧
      names.count "value" = 0 ∧ t.tally = s.tally := by
  obtain ⟨_, ⟨more, hmore, rfl⟩, hstarts⟩ := starts_nodeStart src n s (by rw [h]; nofun)
  have htally := ((composed_nodeStart src n).trail s).tally
  rw [h] at hstarts htally
  refine ⟨_, hstarts, ?_, ?_, htally⟩
  · rw [List.count_cons_self, hmore.count_eq_zero not_inner_node]
  · rw [List.count_cons_of_ne (by decide), hmore.count_eq_zero not_inner_value]

/-- Showing a value starts one value and no node. -/
theorem value_starts {src : Source} {v : Value} (h : (value src v).perform s = (.ok (), t)) :
    ∃ names, Writer.Starts names s.output t.output ∧ names.count "node" = 0 ∧
      names.count "value" = 1 ∧ t.tally = s.tally := by
  have htally := ((composed_value src v).trail s).tally
  rw [h] at htally
  unfold value at h
  rcases hpresented : v.presentation with fault | ⟨shape, p⟩
  · rw [hpresented] at h
    cases h
  rw [hpresented] at h
  change (present src shape v p).perform s = _ at h
  unfold present at h
  rcases htype : valueType shape v with fault | type
  · rw [htype] at h
    cases h
  rw [htype] at h
  have hshown := starts_shown src shape v p type s
  change Action.perform (do
    valueStart v type (announced shape v)
    payload shape v p
    valueEnd src v) s = _ at h
  rw [h] at hshown
  obtain ⟨_, ⟨more, hmore, rfl⟩, hstarts⟩ := hshown nofun
  refine ⟨_, hstarts, ?_, ?_, htally⟩
  · rw [List.count_cons_of_ne (by decide), hmore.count_eq_zero not_inner_node]
  · rw [List.count_cons_self, hmore.count_eq_zero not_inner_value]

end Report

/-! ## Walks -/

namespace Walk

open Report

variable {src : Source} {skipping verbose : Bool} {s t : Session Writer}

/-- **A step keeps the books in accord**, whether it succeeds or not. -/
theorem inAccord_step (src : Source) (skipping : Bool) (ev : Event) (hs : s.InAccord verbose) :
    ((step skipping (visitor src) ev).perform s).2.InAccord verbose := by
  cases ev with
  | note line => exact hs.log line
  | enter n =>
    rw [step, perform_bind, perform_count]
    exact ((composed_nodeStart src n).trail _).inAccord (hs.of_same rfl rfl rfl)
  | value n v =>
    rw [step, perform_bind, perform_count]
    exact ((composed_value src v).trail _).inAccord (hs.of_same rfl rfl rfl)
  | leave n => exact (composed_nodeEnd.trail s).inAccord hs
  | malformed fault list n =>
    cases skipping with
    | true =>
      rw [step, if_pos rfl, perform_bind, perform_count]
      dsimp only
      rw [perform_submit]
      have hlisting : list.operation.isListing = true := by cases list <;> decide
      exact hs.submit fault (fun _ => ⟨n, rfl⟩) (by rw [if_pos hlisting])
    | false => exact hs
  | failed fault => exact hs

/-- **A step that succeeds shows what it counts.** -/
theorem shows_step {ev : Event} (hs : Shows s)
    (h : (step skipping (visitor src) ev).perform s = (.ok (), t)) : Shows t := by
  cases ev with
  | note line =>
    cases h
    exact ⟨hs.nodes, hs.values, hs.unmixed⟩
  | enter n =>
    rw [step, perform_bind, perform_count] at h
    obtain ⟨names, hstarts, hnode, hvalue, htally⟩ := nodeStart_starts h
    exact hs.of_starts hstarts (by rw [htally, hnode]) (by rw [htally, hvalue]; rfl)
  | value n v =>
    rw [step, perform_bind, perform_count] at h
    obtain ⟨names, hstarts, hnode, hvalue, htally⟩ := value_starts h
    exact hs.of_starts hstarts (by rw [htally, hnode]; rfl) (by rw [htally, hvalue])
  | leave n => exact composed_nodeEnd.shows not_inner_node not_inner_value hs h
  | malformed fault list n =>
    have ht : t = ((step skipping (visitor src) (.malformed fault list n)).perform s).2 := by rw [h]
    cases skipping with
    | true =>
      rw [step, if_pos rfl, perform_bind, perform_count] at ht
      dsimp only at ht
      rw [perform_submit] at ht
      rw [ht]
      exact ⟨hs.nodes, hs.values, hs.unmixed⟩
    | false => cases h
  | failed fault => cases h

theorem inAccord_told (src : Source) (skipping : Bool) (evs : List Event)
    (hs : s.InAccord verbose) :
    ((evs.forM (step skipping (visitor src))).perform s).2.InAccord verbose := by
  induction evs generalizing s with
  | nil => exact hs
  | cons ev evs ih =>
    have hstep := inAccord_step src skipping ev hs
    rw [perform_forM_cons]
    rcases hperform : (step skipping (visitor src) ev).perform s with ⟨fault | ⟨⟩, t⟩
    · rw [hperform] at hstep
      exact hstep
    · rw [hperform] at hstep
      exact ih hstep

theorem shows_told {evs : List Event} (hs : Shows s)
    (h : (evs.forM (step skipping (visitor src))).perform s = (.ok (), t)) : Shows t := by
  induction evs generalizing s with
  | nil =>
    cases h
    exact hs
  | cons ev evs ih =>
    rw [perform_forM_cons] at h
    rcases hstep : (step skipping (visitor src) ev).perform s with ⟨fault | ⟨⟩, u⟩
    · rw [hstep] at h
      cases h
    · rw [hstep] at h
      exact ih (shows_step hs hstep) h

/-- **A walk keeps the books in accord**, whether it comes to its end or not. -/
theorem inAccord_run (src : Source) (skipping : Bool) (hs : s.InAccord verbose) :
    ((run src skipping (visitor src)).perform s).2.InAccord verbose := by
  have htold := inAccord_told src skipping (events src) hs
  unfold run
  rw [perform_bind]
  rcases hperform : ((events src).forM (step skipping (visitor src))).perform s with ⟨fault | ⟨⟩, t⟩
  · rw [hperform] at htold
    exact htold
  · rw [hperform] at htold
    exact htold.log _

/-- **A walk that comes to its end** gives its tally, and has shown what that counts. -/
theorem shows_run {tally : Tally} (hs : Shows s)
    (h : (run src skipping (visitor src)).perform s = (.ok tally, t)) :
    Shows t ∧ t.tally = tally := by
  unfold run at h
  rw [perform_bind] at h
  rcases hperform : ((events src).forM (step skipping (visitor src))).perform s with ⟨fault | ⟨⟩, u⟩
  · rw [hperform] at h
    cases h
  · rw [hperform] at h
    cases h
    have hshows := shows_told hs hperform
    exact ⟨⟨hshows.nodes, hshows.values, hshows.unmixed⟩, rfl⟩

end Walk

end HiveDump
