import HiveDump.Proofs.Walk.Callbacks

/-!
# What a walk has skipped

A walk that skips counts every malformed entry it meets and submits it to the policy. A visitor may
change the tally and the policy too; if it keeps them, they show the malformed entries and nothing
else.

Results:
* **`skipped_of_forM`**: the tally counts the malformed events;
* **`policy_of_forM`**: the policy was given the malformed events, in order;
* `run_of_failed`: a walk that meets what ends every walk fails with it.
-/

namespace HiveDump

variable {δ : Type}

/-- What a policy is told of an event, if it is malformed. -/
def Event.submission? : Event → Option Policy.Submission
  | .malformed fault list n => some ⟨fault, list.operation, .node n⟩
  | _ => none

/-- Whether no call of a visitor changes what `view` shows of a session. -/
structure Visitor.Keeps {β : Type} (v : Visitor δ) (view : Session δ → β) : Prop where
  enter : ∀ n s, view ((v.enter n).perform s).2 = view s
  value : ∀ n w s, view ((v.value n w).perform s).2 = view s
  leave : ∀ n s, view ((v.leave n).perform s).2 = view s

namespace Walk

open HiveDump.Action

variable {src : Source} {v : Visitor δ} {s t : Session δ}

/-- What every step does to a view of the session, all steps together do one after the other. -/
theorem view_of_forM {β : Type} {view : Session δ → β} {change : Event → β → β}
    (hstep : ∀ ev s t, perform (step true v ev) s = (.ok (), t) → view t = change ev (view s))
    {evs : List Event} (h : perform (evs.forM (step true v)) s = (.ok (), t)) :
    view t = evs.foldl (fun b ev => change ev b) (view s) := by
  induction evs generalizing s with
  | nil =>
    cases h
    rfl
  | cons ev evs ih =>
    rw [perform_forM_cons] at h
    rcases hs : perform (step true v ev) s with ⟨_ | ⟨⟩, u⟩
    · rw [hs] at h
      cases h
    · rw [hs] at h
      rw [ih h, hstep ev s u hs]
      rfl

/-! ## The tally -/

theorem skipped_of_step (hk : v.Keeps fun s => s.tally.skipped) (ev : Event) (s t : Session δ)
    (h : perform (step true v ev) s = (.ok (), t)) :
    t.tally.skipped = s.tally.skipped + if ev.isMalformed then 1 else 0 := by
  have ht : t = (perform (step true v ev) s).2 := by rw [h]
  cases ev with
  | note line => rw [ht]; rfl
  | enter n =>
    simp only [step, perform_bind, perform_count] at ht
    rw [ht, hk.enter]
    rfl
  | value n w =>
    simp only [step, perform_bind, perform_count] at ht
    rw [ht, hk.value]
    rfl
  | leave n => rw [ht]; exact hk.leave n s
  | malformed fault list n =>
    simp only [step, perform_bind, perform_count, perform_submit, if_true] at ht
    rw [ht]
    rfl
  | failed fault => cases h

theorem foldl_count (evs : List Event) (k : Nat) :
    evs.foldl (fun k ev => k + if ev.isMalformed then 1 else 0) k =
      k + evs.countP Event.isMalformed := by
  induction evs generalizing k with
  | nil => rfl
  | cons ev evs ih =>
    rw [List.foldl_cons, ih, List.countP_cons]
    omega

/-- **The tally counts the malformed events.** -/
theorem skipped_of_forM (hk : v.Keeps fun s => s.tally.skipped) {evs : List Event}
    (h : perform (evs.forM (step true v)) s = (.ok (), t)) :
    t.tally.skipped = s.tally.skipped + evs.countP Event.isMalformed :=
  (view_of_forM (skipped_of_step hk) h).trans (foldl_count evs _)

/-! ## The policy -/

/-- The policy behind an event. -/
def policyBehind (ev : Event) (p : Policy) : Policy :=
  match ev.submission? with
  | some g => (p.handle g.fault g.operation g.target).policy
  | none => p

theorem policy_of_step (hk : v.Keeps fun s => s.policy) (ev : Event) (s t : Session δ)
    (h : perform (step true v ev) s = (.ok (), t)) : t.policy = policyBehind ev s.policy := by
  have ht : t = (perform (step true v ev) s).2 := by rw [h]
  cases ev with
  | note line => rw [ht]; rfl
  | enter n =>
    simp only [step, perform_bind, perform_count] at ht
    rw [ht, hk.enter]
    rfl
  | value n w =>
    simp only [step, perform_bind, perform_count] at ht
    rw [ht, hk.value]
    rfl
  | leave n => rw [ht]; exact hk.leave n s
  | malformed fault list n =>
    simp only [step, perform_bind, perform_count, perform_submit, if_true] at ht
    rw [ht]
    rfl
  | failed fault => cases h

theorem foldl_policyBehind (evs : List Event) (p : Policy) :
    evs.foldl (fun p ev => policyBehind ev p) p = p.after (evs.filterMap Event.submission?) := by
  induction evs generalizing p with
  | nil => rfl
  | cons ev evs ih =>
    rw [List.foldl_cons, ih, policyBehind]
    cases hs : ev.submission? with
    | none => rw [List.filterMap_cons_none hs]
    | some g => rw [List.filterMap_cons_some hs]; rfl

/-- **The policy was given the malformed events**, in order. -/
theorem policy_of_forM (hk : v.Keeps fun s => s.policy) {evs : List Event}
    (h : perform (evs.forM (step true v)) s = (.ok (), t)) :
    t.policy = s.policy.after (evs.filterMap Event.submission?) :=
  (view_of_forM (policy_of_step hk) h).trans (foldl_policyBehind evs _)

/-! ## Runs -/

/-- A run that comes to its end has gone over all events. -/
theorem forM_of_run_ok {skipping : Bool} {tally : Tally}
    (h : perform (run src skipping v) s = (.ok tally, t)) :
    ∃ u, perform ((events src).forM (step skipping v)) s = (.ok (), u) ∧ tally = u.tally ∧
      t.policy = u.policy := by
  rw [run, perform_bind] at h
  rcases hf : perform ((events src).forM (step skipping v)) s with ⟨_ | ⟨⟩, u⟩
  · rw [hf] at h
    cases h
  · rw [hf] at h
    cases h
    exact ⟨u, rfl, rfl, rfl⟩

/-- A walk that meets what ends every walk fails with it. -/
theorem run_of_failed (hv : v.Calm) (hp : s.policy.NeverRaises)
    (hf : ∃ ev ∈ events src, ev.isFailed = true) :
    ∃ fault, Event.failed fault ∈ events src ∧ (perform (run src true v) s).1 = .error fault := by
  obtain ⟨ev, hfind⟩ : ∃ ev, (events src).find? Event.isFailed = some ev :=
    Option.isSome_iff_exists.mp (List.find?_isSome.mpr hf)
  obtain ⟨hev, before, behind, hevs, hbefore⟩ := List.find?_eq_some_iff_append.mp hfind
  cases ev with
  | failed fault =>
    refine ⟨fault, by rw [hevs]; simp, ?_⟩
    obtain ⟨u, hu, -⟩ := forM_calm true hv
      (fun ev h => by simpa using hbefore ev h) (fun h => by cases h) s hp
    exact (run_of_forM_error hevs hu fun w u => rfl).1
  | _ => cases hev

end Walk

end HiveDump
