import HiveDump.Proofs.Calm
import HiveDump.Proofs.Memory.Closed

/-!
# The calls of a walk

The stack walk makes the calls of the plain recursive walk. A walk that skips what is malformed
makes all of them; one that does not is cut at the first malformed entry, unreadable list or
repeated handle, and fails with a fault raised from that one.

The hypotheses are what the two sides need to be comparable: the source reports bad entries as
malformed only (`OnlyMalformed`; every scripted hive in memory does), and neither the visitor nor
the policy ends the walk by itself (`Visitor.Calm`, `Policy.NeverRaises`).

Results:
* `perform_forM_recorded`: writing the calls down changes nothing else about a walk;
* `plainWalk_iff`: the calls among the events are those of the plain recursion;
* **`run_refines_recursion`**: what a run does is what the recursion says.
-/

namespace HiveDump.Walk

open HiveDump.Action

variable {δ : Type} {src : Source} {v : Visitor δ} {skipping : Bool}

/-! ## Recording -/

/-- What a step on the output alone does in a session with a record beside it, to which it adds. -/
def recordedAs {α ε : Type} (s : Session (δ × List ε)) (added : List ε)
    (r : Except Fault α × Session δ) : Except Fault α × Session (δ × List ε) :=
  (r.1, r.2.withOutput (r.2.output, s.output.2 ++ added))

/-- A recorded call is made as it would be without the record. -/
theorem perform_recorded_call (call : Callback) (act : Action δ Unit)
    (s : Session (δ × List Callback)) :
    perform (do call.record; act.besideRecord) s =
      recordedAs s [call] (perform act s.unrecorded) :=
  rfl

theorem perform_step_recorded (ev : Event) (s : Session (δ × List Callback)) :
    perform (step skipping v.recorded ev) s =
      recordedAs s ev.callback?.toList (perform (step skipping v ev) s.unrecorded) := by
  cases ev with
  | note line => simp [step, recordedAs, Event.callback?, Session.unrecorded, Session.withOutput]
  | enter n =>
    simp only [step, perform_bind, perform_count]
    exact perform_recorded_call _ _ _
  | value n w =>
    simp only [step, perform_bind, perform_count]
    exact perform_recorded_call _ _ _
  | leave n => exact perform_recorded_call _ _ _
  | malformed fault list n =>
    cases skipping with
    | true =>
      simp only [step, perform_bind, perform_count, perform_submit, if_true]
      simp [recordedAs, Event.callback?, Session.unrecorded, Session.withOutput, warned]
    | false =>
      simp [step, recordedAs, Event.callback?, Session.unrecorded, Session.withOutput]
  | failed fault =>
    simp [step, recordedAs, Event.callback?, Session.unrecorded, Session.withOutput]

theorem unrecorded_recordedAs {α ε : Type} (s : Session (δ × List ε)) (added : List ε)
    (r : Except Fault α × Session δ) : (recordedAs s added r).2.unrecorded = r.2 := rfl

/-- The events that are dealt with, up to the first one at which it fails. -/
def dealt (act : Event → Action δ Unit) : List Event → Session δ → List Event
  | [], _ => []
  | ev :: evs, s =>
    ev :: match perform (act ev) s with
      | (.ok _, t) => dealt act evs t
      | (.error _, _) => []

theorem dealt_of_ok {act : Event → Action δ Unit} {evs : List Event} {s t : Session δ}
    (h : perform (evs.forM act) s = (.ok (), t)) : dealt act evs s = evs := by
  induction evs generalizing s with
  | nil => rfl
  | cons ev evs ih =>
    rw [perform_forM_cons] at h
    rw [dealt]
    rcases hr : perform (act ev) s with ⟨fault | ⟨⟩, u⟩
    · rw [hr] at h
      cases h
    · rw [hr] at h
      exact congrArg _ (ih h)

/-- Going over events with a record beside the output adds what is recorded of each event that is
dealt with. -/
theorem perform_forM_recordedAs {ε : Type} {act : Event → Action δ Unit}
    {act' : Event → Action (δ × List ε) Unit} {record : Event → Option ε}
    (hact : ∀ ev s, perform (act' ev) s =
      recordedAs s (record ev).toList (perform (act ev) s.unrecorded))
    (evs : List Event) (s : Session (δ × List ε)) :
    perform (evs.forM act') s = recordedAs s ((dealt act evs s.unrecorded).filterMap record)
      (perform (evs.forM act) s.unrecorded) := by
  induction evs generalizing s with
  | nil => simp [recordedAs, dealt, Session.unrecorded, Session.withOutput]
  | cons ev evs ih =>
    rw [perform_forM_cons, perform_forM_cons, hact, dealt]
    rcases perform (act ev) s.unrecorded with ⟨fault | ⟨⟩, t⟩
    · cases hr : record ev <;> simp [recordedAs, hr]
    · refine (ih (recordedAs s (record ev).toList (.ok (), t)).2).trans ?_
      rw [unrecorded_recordedAs]
      cases hr : record ev <;> simp [recordedAs, Session.withOutput, hr]

/-- Going over events with the calls written down adds the calls up to where it stops. -/
theorem perform_forM_recorded (skipping : Bool) (v : Visitor δ) (evs : List Event)
    (s : Session (δ × List Callback)) :
    ∃ calls, perform (evs.forM (step skipping v.recorded)) s =
      recordedAs s calls (perform (evs.forM (step skipping v)) s.unrecorded) ∧
      ∀ t, perform (evs.forM (step skipping v)) s.unrecorded = (.ok (), t) →
        calls = evs.filterMap Event.callback? := by
  refine ⟨_, perform_forM_recordedAs perform_step_recorded evs s, fun t ht => ?_⟩
  rw [dealt_of_ok ht]

/-! ## The plain recursion -/

theorem filterMap_entryEvents {α : Type} (list : EntryList) (n : Node) (e : Entry α) :
    (entryEvents list n e).filterMap Event.callback? = [] := by
  rw [List.filterMap_eq_nil_iff]
  intro ev hev
  rcases List.mem_append.mp hev with hev | hev
  · obtain ⟨line, -, rfl⟩ := List.mem_map.mp hev
    rfl
  · cases ho : e.outcome with
    | ok a => simp [ho] at hev
    | error fault =>
      simp only [ho, List.mem_singleton] at hev
      rw [hev, faultEvent]
      split <;> rfl

theorem filterMap_valueEvents (src : Source) (n : Node) :
    (valueEvents src n).filterMap Event.callback? =
      (Listing.good (src.values n)).map (.value n) := by
  unfold valueEvents Listing.good
  induction Listing.entries (src.values n) with
  | nil => rfl
  | cons e es ih =>
    rw [List.flatMap_cons, List.filterMap_append, List.filterMap_append, filterMap_entryEvents, ih]
    cases he : e.good? with
    | none => simp [he]
    | some w => simp [he, Event.callback?]

theorem filterMap_around (src : Source) (n : Node) (inside : List Event) :
    (around src n inside).filterMap Event.callback? =
      callsAround src n (inside.filterMap Event.callback?) := by
  simp [around, enterEvents, callsAround, filterMap_valueEvents, Event.callback?]

/-- The calls of the recursion over entries are those of the plain recursion. -/
theorem spans_of_inside {entered after : List Int} {n : Node} {rest : List (Entry Node)}
    {evs : List Event} (h : Inside src entered n rest evs after) :
    Spans src entered (rest.filterMap Entry.good?) (evs.filterMap Event.callback?) after := by
  induction h with
  | nil => exact .nil
  | bad he _ ih =>
    rw [List.filterMap_append, filterMap_entryEvents, List.filterMap_cons, he]
    exact ih
  | again he hc _ ih =>
    rw [List.filterMap_append, filterMap_entryEvents, List.filterMap_cons, he]
    exact .again hc ih
  | fresh he hc _ _ ihChild ihRest =>
    rw [List.filterMap_append, List.filterMap_append, filterMap_entryEvents, filterMap_around,
      List.filterMap_cons, he]
    exact .fresh hc ihChild ihRest

theorem spans_unique {entered after after' : List Int} {rest : List Node}
    {calls calls' : List Callback} (h : Spans src entered rest calls after)
    (h' : Spans src entered rest calls' after') : calls = calls' ∧ after = after' := by
  induction h generalizing calls' after' with
  | nil => cases h'; exact ⟨rfl, rfl⟩
  | again hc _ ih =>
    cases h' with
    | again _ hrest' => exact ih hrest'
    | fresh hc' => exact absurd hc hc'
  | fresh hc _ _ ihChild ihRest =>
    cases h' with
    | again hc' => exact absurd hc' hc
    | fresh _ hchild' hrest' =>
      obtain ⟨rfl, rfl⟩ := ihChild hchild'
      obtain ⟨rfl, rfl⟩ := ihRest hrest'
      exact ⟨rfl, rfl⟩

/-- The calls among the events are those of the plain recursion, and of no other. -/
theorem plainWalk_iff {evs : List Event} (h : Recursive src evs) (calls : List Callback) :
    PlainWalk src calls ↔ calls = evs.filterMap Event.callback? := by
  obtain ⟨inside, after, hin, rfl⟩ := h
  rw [filterMap_around]
  constructor
  · rintro ⟨inside', after', hspans, rfl⟩
    rw [(spans_unique hspans (spans_of_inside hin)).1]
  · rintro rfl
    exact ⟨_, after, spans_of_inside hin, rfl⟩

theorem plainWalk_events (src : Source) :
    PlainWalk src ((events src).filterMap Event.callback?) :=
  (plainWalk_iff (recursive_events src) _).mpr rfl

/-! ## Runs -/

/-- Going over events that end no walk succeeds with a calm visitor. -/
theorem forM_calm (skipping : Bool) (hv : v.Calm) {evs : List Event}
    (hf : ∀ ev ∈ evs, ev.isFailed = false)
    (hm : skipping = false → ∀ ev ∈ evs, ev.isMalformed = false) :
    (evs.forM (step skipping v)).Calm := by
  induction evs with
  | nil => exact fun s hs => ⟨s, rfl, hs⟩
  | cons ev evs ih =>
    intro s hs
    obtain ⟨t, hst, ht⟩ := step_calm hv (hf ev List.mem_cons_self)
      (fun h => hm h ev List.mem_cons_self) s hs
    obtain ⟨u, htu, hu⟩ := ih (fun ev' h => hf ev' (List.mem_cons_of_mem _ h))
      (fun h ev' h' => hm h ev' (List.mem_cons_of_mem _ h')) t ht
    refine ⟨u, ?_, hu⟩
    rw [perform_forM_cons, hst]
    exact htu

/-- A run that comes to its end has made every call. -/
theorem run_of_forM_ok {s t : Session δ}
    (h : perform ((events src).forM (step skipping v)) s = (.ok (), t)) :
    (perform (run src skipping v) s).1 = .ok t.tally ∧
      fired src skipping v s = (events src).filterMap Event.callback? := by
  have hs : (s.withOutput (s.output, ([] : List Callback))).unrecorded = s := rfl
  obtain ⟨calls, hcalls, hall⟩ := perform_forM_recorded skipping v
    (events src) (s.withOutput (s.output, []))
  rw [hs, h] at hcalls
  rw [hs] at hall
  refine ⟨?_, ?_⟩
  · simp only [run, perform_bind, h, perform_get, perform_debug, perform_pure]
  · rw [← hall t h]
    simp only [fired, run, perform_bind, hcalls]
    rfl

/-- A run that fails behind some of the events has made the calls for these. -/
theorem run_of_forM_error {before behind : List Event} {ev : Event} {s t : Session δ}
    {fault : Fault} (hevs : events src = before ++ ev :: behind)
    (hbefore : perform (before.forM (step skipping v)) s = (.ok (), t))
    (hev : ∀ {ε : Type} (w : Visitor ε) (u : Session ε),
      perform (step skipping w ev) u = (.error fault, u)) :
    (perform (run src skipping v) s).1 = .error fault ∧
      fired src skipping v s = before.filterMap Event.callback? := by
  have hs : (s.withOutput (s.output, ([] : List Callback))).unrecorded = s := rfl
  obtain ⟨calls, hcalls, hall⟩ := perform_forM_recorded skipping v
    before (s.withOutput (s.output, []))
  rw [hs, hbefore] at hcalls
  rw [hs] at hall
  refine ⟨?_, ?_⟩
  · simp only [run, perform_bind, hevs, perform_forM_append, hbefore, perform_forM_cons, hev]
  · rw [← hall t hbefore]
    simp only [fired, run, perform_bind, hevs, perform_forM_append, hcalls, perform_forM_cons,
      recordedAs, hev]
    rfl

/-- What the recursive walk says about the runs of a visitor: which calls they make, and how they
end. -/
structure FiresAs (src : Source) (v : Visitor δ) (s : Session δ) (evs : List Event) : Prop where
  /-- A walk that skips comes to its end and makes every call. -/
  skipping : (∃ tally, (perform (run src true v) s).1 = .ok tally) ∧
    fired src true v s = evs.filterMap Event.callback?
  /-- So does one that does not skip, if there is nothing to skip. -/
  whole : (∀ ev ∈ evs, ev.isMalformed = false) →
    (∃ tally, (perform (run src false v) s).1 = .ok tally) ∧
      fired src false v s = evs.filterMap Event.callback?
  /-- Else it is cut at what is malformed first, which the fault it ends with was raised from. -/
  cut : ∀ before fault list n behind, evs = before ++ .malformed fault list n :: behind →
    (∀ ev ∈ before, ev.isMalformed = false) →
    (∃ raised, (perform (run src false v) s).1 = .error raised ∧ raised.kind = .aborted ∧
      raised.origin? = some fault) ∧
      fired src false v s = before.filterMap Event.callback?

theorem firesAs_events (hsrc : OnlyMalformed src) (hv : v.Calm) {s : Session δ}
    (hp : s.policy.NeverRaises) : FiresAs src v s (events src) := by
  have hf := not_failed_of_onlyMalformed hsrc (recursive_events src)
  refine ⟨?_, fun hm => ?_, fun before fault list n behind hevs hm => ?_⟩
  · obtain ⟨t, ht, -⟩ := forM_calm true hv hf (fun h => by cases h) s hp
    obtain ⟨hok, hfired⟩ := run_of_forM_ok ht
    exact ⟨⟨_, hok⟩, hfired⟩
  · obtain ⟨t, ht, -⟩ := forM_calm false hv hf (fun _ => hm) s hp
    obtain ⟨hok, hfired⟩ := run_of_forM_ok ht
    exact ⟨⟨_, hok⟩, hfired⟩
  · have hf' : ∀ ev ∈ before, ev.isFailed = false :=
      fun ev h => hf ev (hevs ▸ List.mem_append_left _ h)
    obtain ⟨t, ht, -⟩ := forM_calm false hv hf' (fun _ => hm) s hp
    obtain ⟨herr, hfired⟩ := run_of_forM_error hevs ht (fun w u => rfl)
    exact ⟨⟨_, herr, rfl, rfl⟩, hfired⟩

/-- **A run does what the recursion says.** For every source that reports bad entries as malformed
only, every calm visitor and every policy that never raises; every scripted hive in memory is such a
source. -/
theorem run_refines_recursion :
    (∀ {δ : Type} (src : Source) (v : Visitor δ) (s : Session δ),
      OnlyMalformed src → v.Calm → s.policy.NeverRaises →
        ∃ evs, (∀ evs', Recursive src evs' ↔ evs' = evs) ∧
          (∀ calls, PlainWalk src calls ↔ calls = evs.filterMap Event.callback?) ∧
          FiresAs src v s evs) ∧
    ∀ (root : MemoryHive.NewKey) (lastModified : Option Int) (resumable : Bool)
      (steps : List MemoryHive.Step), OnlyMalformed
        (MemoryHive.build (MemoryHive.create root lastModified resumable) steps).hive.source := by
  refine ⟨fun src v s hsrc hv hp => ?_, MemoryHive.onlyMalformed_build⟩
  have hrec := recursive_events src
  refine ⟨events src, fun evs' => ⟨fun h => recursive_unique h hrec, ?_⟩, plainWalk_iff hrec,
    firesAs_events hsrc hv hp⟩
  rintro rfl
  exact hrec

/-- A visitor that does nothing. -/
def silent : Visitor Unit :=
  ⟨fun _ => pure (), fun _ _ => pure (), fun _ => pure ()⟩

theorem calm_silent : silent.Calm :=
  ⟨fun _ s hs => ⟨s, rfl, hs⟩, fun _ _ s hs => ⟨s, rfl, hs⟩, fun _ s hs => ⟨s, rfl, hs⟩⟩

/-- Two keys below each other that list one another, with bad entries in front of and behind the
links. -/
def tangledScript : List MemoryHive.Step :=
  [.value 0 { key := some "v", kind := .dword, data := .number 7 }, .badValue 0 "bad value",
    .key 0 { name := some "a" }, .key 1 { name := some "b" }, .link 2 1, .link 0 2,
    .badChild 0 "bad key", .link 0 0, .key 1 { name := some "c" }, .unreadableList 3]

/-- The hive of that script, with lists that end at a bad entry. -/
def tangled : MemoryHive :=
  (MemoryHive.build (MemoryHive.create { name := some "root" } none false) tangledScript).hive

theorem run_refines_recursion_tangled :
    OnlyMalformed tangled.source ∧ silent.Calm ∧ Policy.standard.NeverRaises ∧
      ∃ evs, (∀ evs', Recursive tangled.source evs' ↔ evs' = evs) ∧
        (∀ calls, PlainWalk tangled.source calls ↔ calls = evs.filterMap Event.callback?) ∧
        FiresAs tangled.source silent ⟨(), Policy.standard, {}, #[]⟩ evs := by
  have hsrc : OnlyMalformed tangled.source := run_refines_recursion.2 _ none false tangledScript
  exact ⟨hsrc, calm_silent, Policy.neverRaises_standard,
    run_refines_recursion.1 tangled.source silent ⟨(), Policy.standard, {}, #[]⟩ hsrc calm_silent
      Policy.neverRaises_standard⟩

end HiveDump.Walk
