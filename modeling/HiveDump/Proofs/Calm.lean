import HiveDump.Proofs.Handling
import HiveDump.Walk.Callback

/-!
# Visitors that raise nothing

A visitor is calm if its calls succeed in every session with a policy that never raises, and leave
such a policy behind.

Results:
* `Calm.bind`, `calm_submit`: calm steps;
* **`step_calm`**: with a calm visitor a step of a walk fails only at a fault that ends every walk,
  and at what is malformed if that is not skipped.
-/

namespace HiveDump

variable {δ : Type}

/-! ## Visitors -/

/-- Whether a step succeeds wherever no policy raises, and leaves it so. -/
def Action.Calm (act : Action δ Unit) : Prop :=
  ∀ s : Session δ, s.policy.NeverRaises →
    ∃ t, act.perform s = (.ok (), t) ∧ t.policy.NeverRaises

/-- Whether every call of a visitor is calm. -/
structure Visitor.Calm (v : Visitor δ) : Prop where
  enter : ∀ n, (v.enter n).Calm
  value : ∀ n w, (v.value n w).Calm
  leave : ∀ n, (v.leave n).Calm

namespace Action

theorem calm_modify {change : Session δ → Session δ}
    (h : ∀ s, (change s).policy = s.policy) : (modify change : Action δ Unit).Calm :=
  fun s hs => ⟨change s, rfl, by rwa [h]⟩

theorem Calm.bind {x y : Action δ Unit} (hx : x.Calm) (hy : y.Calm) :
    (do x; y : Action δ Unit).Calm := by
  intro s hs
  obtain ⟨t, hxt, ht⟩ := hx s hs
  obtain ⟨u, hyu, hu⟩ := hy t ht
  refine ⟨u, ?_, hu⟩
  rw [perform_bind, hxt]
  exact hyu

theorem calm_submit (fault : Fault) (op : Operation) (target : Target) :
    (submit fault op target : Action δ Unit).Calm := by
  intro s hs
  obtain ⟨fallback, hf⟩ := hs.outcome fault op target
  have h := perform_submit fault op target s
  rw [hf] at h
  exact ⟨_, h, hs.handle fault op target⟩

end Action

namespace Walk

open HiveDump.Action

variable {v : Visitor δ} {skipping : Bool}

/-- **A step of a walk with a calm visitor is calm**, unless it meets what ends the walk. -/
theorem step_calm (hv : v.Calm) {ev : Event} (hf : ev.isFailed = false)
    (hm : skipping = false → ev.isMalformed = false) : (step skipping v ev).Calm := by
  cases ev with
  | note line => exact calm_modify fun s => rfl
  | enter n => exact .bind (calm_modify fun s => rfl) (hv.enter n)
  | value n w => exact .bind (calm_modify fun s => rfl) (hv.value n w)
  | leave n => exact hv.leave n
  | malformed fault list n =>
    cases skipping with
    | true => exact .bind (calm_modify fun s => rfl) (calm_submit fault _ _)
    | false => exact absurd (hm rfl) (by simp [Event.isMalformed])
  | failed fault => exact absurd hf (by simp [Event.isFailed])

end Walk

end HiveDump
