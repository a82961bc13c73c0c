import HiveDump.Proofs.Walk.Skipped

/-!
# What the tally of a walk counts

The tally is kept by the walk itself; what it should count is seen from outside: the calls that the
visitor got (`Walk.fired`), and the malformed entries that the policy was handed. `Walk.handed`
writes the latter down at the moment at which the walk hands them over, so what a visitor submits to
the policy on its own account does not count.

Results:
* `perform_stepHanding_recorded`: writing down what is handed over changes nothing else;
* **`tally_forM_dealt`**: the tally behind any events;
* **`run_tally`**: the tally of a walk, whether it comes to its end or not.
-/

namespace HiveDump

variable {δ ε : Type}

/-- The visitor, in sessions with a record beside the output. -/
def Visitor.besideRecord (v : Visitor δ) : Visitor (δ × ε) where
  enter n := (v.enter n).besideRecord
  value n w := (v.value n w).besideRecord
  leave n := (v.leave n).besideRecord

/-- Hands a fault to the policy once it is written down. -/
def Action.submitRecorded (fault : Fault) (op : Operation) (target : Target) :
    Action (δ × List Policy.Submission) Unit := do
  modify fun s => s.withOutput (s.output.1, s.output.2 ++ [⟨fault, op, target⟩])
  Action.submit fault op target

/-- Whether a call enters a node. -/
def Callback.isEnter : Callback → Bool
  | enter _ => true
  | value _ _ | leave _ => false

/-- Whether a call tells a value. -/
def Callback.isValue : Callback → Bool
  | value _ _ => true
  | enter _ | leave _ => false

namespace Walk

open HiveDump.Action

/-- What a walk does about something it meets, where `hand` hands faults to the policy. -/
def stepHanding (hand : Fault → Operation → Target → Action δ Unit) (skipping : Bool)
    (visitor : Visitor δ) : Event → Action δ Unit
  | .note line => Action.log line
  | .enter n => do
    Action.count fun t => { t with nodes := t.nodes + 1 }
    visitor.enter n
  | .value n v => do
    Action.count fun t => { t with values := t.values + 1 }
    visitor.value n v
  | .leave n => visitor.leave n
  | .malformed fault list n => do
    if skipping then
      Action.count fun t => { t with skipped := t.skipped + 1 }
      hand fault list.operation (.node n)
    else throw (.aborted list.operation n.handle fault)
  | .failed fault => throw fault

/-- The malformed entries that a walk hands to the policy, in order. -/
def handed (src : Source) (skipping : Bool) (visitor : Visitor δ) (s : Session δ) :
    List Policy.Submission :=
  (((events src).forM (stepHanding submitRecorded skipping visitor.besideRecord)).perform
    (s.withOutput (s.output, []))).2.output.2

/-- What the tally of a walk should be: how often a node was entered and a value told, and how many
malformed entries were handed to the policy. -/
def made (src : Source) (skipping : Bool) (visitor : Visitor δ) (s : Session δ) : Tally where
  nodes := (fired src skipping visitor s).countP Callback.isEnter
  values := (fired src skipping visitor s).countP Callback.isValue
  skipped := (handed src skipping visitor s).length

variable {src : Source} {v : Visitor δ} {skipping : Bool}

/-! ## What is recorded -/

/-- What a walk hands to the policy at an event. -/
def handedAt (skipping : Bool) (ev : Event) : Option Policy.Submission :=
  if skipping then ev.submission? else none

theorem perform_stepHanding_recorded (ev : Event) (s : Session (δ × List Policy.Submission)) :
    perform (stepHanding submitRecorded skipping v.besideRecord ev) s =
      recordedAs s (handedAt skipping ev).toList (perform (step skipping v ev) s.unrecorded) := by
  have hnothing {α : Type} (act : Action δ α) (u : Session (δ × List Policy.Submission)) :
      perform act.besideRecord u = recordedAs u [] (perform act u.unrecorded) := by
    simp only [recordedAs, List.append_nil]
    rfl
  have hnone (h : ev.submission? = none) : handedAt skipping ev = none := by
    unfold handedAt
    split
    · exact h
    · rfl
  cases ev with
  | malformed fault list n =>
    cases skipping with
    | true =>
      simp only [stepHanding, step, submitRecorded, perform_bind, perform_count, perform_modify,
        perform_submit, if_true]
      simp [recordedAs, handedAt, Event.submission?, Session.unrecorded, Session.withOutput, warned]
    | false =>
      simp [stepHanding, step, recordedAs, handedAt, Session.unrecorded, Session.withOutput]
  | note line =>
    simp [stepHanding, step, recordedAs, hnone rfl, Session.unrecorded, Session.withOutput]
  | enter n =>
    rw [hnone rfl]
    simp only [stepHanding, step, perform_bind, perform_count]
    exact hnothing _ _
  | value n w =>
    rw [hnone rfl]
    simp only [stepHanding, step, perform_bind, perform_count]
    exact hnothing _ _
  | leave n =>
    rw [hnone rfl]
    exact hnothing _ _
  | failed fault =>
    simp [stepHanding, step, recordedAs, hnone rfl, Session.unrecorded, Session.withOutput]

/-- The malformed entries that are handed over are those that the walk deals with. -/
theorem handed_eq (s : Session δ) : handed src skipping v s =
    (dealt (step skipping v) (events src) s).filterMap (handedAt skipping) := by
  unfold handed
  rw [perform_forM_recordedAs perform_stepHanding_recorded]
  rfl

/-- The calls that are made are those for the events that the walk deals with. -/
theorem fired_eq (s : Session δ) : fired src skipping v s =
    (dealt (step skipping v) (events src) s).filterMap Event.callback? := by
  have hforM : perform ((events src).forM (step skipping v.recorded)) (s.withOutput (s.output, [])) =
      _ := perform_forM_recordedAs perform_step_recorded _ _
  unfold fired run
  rw [perform_bind, hforM]
  rcases perform ((events src).forM (step skipping v)) _ with ⟨fault | ⟨⟩, t⟩ <;> rfl

/-! ## The tally -/

/-- The tally behind an event that a walk deals with. -/
def tallyBehind (skipping : Bool) (t : Tally) : Event → Tally
  | .enter _ => { t with nodes := t.nodes + 1 }
  | .value _ _ => { t with values := t.values + 1 }
  | .malformed _ _ _ => if skipping then { t with skipped := t.skipped + 1 } else t
  | .note _ | .leave _ | .failed _ => t

/-- A step counts before it calls the visitor or asks the policy, so it counts even if it fails. -/
theorem tally_step (hk : v.Keeps fun s => s.tally) (skipping : Bool) (ev : Event)
    (s : Session δ) :
    (perform (step skipping v ev) s).2.tally = tallyBehind skipping s.tally ev := by
  cases ev with
  | note line => rfl
  | enter n =>
    simp only [step, perform_bind, perform_count]
    exact hk.enter n _
  | value n w =>
    simp only [step, perform_bind, perform_count]
    exact hk.value n w _
  | leave n => exact hk.leave n s
  | malformed fault list n =>
    cases skipping with
    | true =>
      simp only [step, perform_bind, perform_count, perform_submit, if_true]
      rfl
    | false => rfl
  | failed fault => rfl

/-- The tally counts what is dealt with. -/
theorem tally_forM_dealt (hk : v.Keeps fun s => s.tally) (skipping : Bool) (evs : List Event)
    (s : Session δ) :
    (perform (evs.forM (step skipping v)) s).2.tally =
      (dealt (step skipping v) evs s).foldl (tallyBehind skipping) s.tally := by
  induction evs generalizing s with
  | nil => rfl
  | cons ev evs ih =>
    have hstep := tally_step hk skipping ev s
    rw [perform_forM_cons, dealt, List.foldl_cons, ← hstep]
    rcases perform (step skipping v ev) s with ⟨fault | ⟨⟩, t⟩
    · rfl
    · exact ih t

theorem foldl_tallyBehind (evs : List Event) (t : Tally) :
    evs.foldl (tallyBehind skipping) t =
      { nodes := t.nodes + (evs.filterMap Event.callback?).countP Callback.isEnter
        values := t.values + (evs.filterMap Event.callback?).countP Callback.isValue
        skipped := t.skipped + (evs.filterMap (handedAt skipping)).length } := by
  induction evs generalizing t with
  | nil => rfl
  | cons ev evs ih =>
    rw [List.foldl_cons, ih, List.filterMap_cons, List.filterMap_cons]
    cases ev <;> cases skipping <;>
      simp [tallyBehind, Event.callback?, Callback.isEnter, Callback.isValue, handedAt,
        Event.submission?, List.countP_cons, Nat.add_assoc, Nat.add_comm 1]

/-- **The tally of a walk**, whether it comes to its end or not. -/
theorem run_tally (hk : v.Keeps fun s => s.tally) {s : Session δ} (hs : s.tally = {}) :
    (perform (run src skipping v) s).2.tally = made src skipping v s ∧
      ∀ tally, (perform (run src skipping v) s).1 = .ok tally →
        tally = made src skipping v s := by
  have htally := tally_forM_dealt hk skipping (events src) s
  have hmade : (dealt (step skipping v) (events src) s).foldl (tallyBehind skipping) s.tally =
      made src skipping v s := by
    rw [foldl_tallyBehind, made, fired_eq, handed_eq, hs]
    simp
  rw [hmade] at htally
  unfold run
  rw [perform_bind]
  rcases hforM : perform ((events src).forM (step skipping v)) s with ⟨fault | ⟨⟩, t⟩
  · rw [hforM] at htally
    exact ⟨htally, nofun⟩
  · rw [hforM] at htally
    refine ⟨htally, fun tally h => ?_⟩
    cases h
    exact htally

end Walk

end HiveDump
