/-!
# Loops

A loop repeats one turn on a state until a turn gives the result. `Loop.Ends` says that it comes to
an end, behind how many turns and with which result; nothing keeps a loop from never ending.

Main statement: `endsWithin_of_variant`, a loop ends with the result that an invariant promises, if
some number that belongs to its state gets smaller with every turn.
-/

namespace HiveDump.Loop

variable {σ ρ : Type} {turn : σ → σ ⊕ ρ}

/-- Repeating the turn from a state on gives the result in the last of so many turns. -/
inductive Ends (turn : σ → σ ⊕ ρ) : (state : σ) → (turns : Nat) → (result : ρ) → Prop
  | last {state result} (h : turn state = .inr result) : Ends turn state 1 result
  | further {state next turns result} (h : turn state = .inl next)
      (hnext : Ends turn next turns result) : Ends turn state (turns + 1) result

/-- Repeating the turn from a state on gives the result in no more than so many turns. -/
def EndsWithin (turn : σ → σ ⊕ ρ) (state : σ) (bound : Nat) (result : ρ) : Prop :=
  ∃ turns ≤ bound, Ends turn state turns result

theorem EndsWithin.mono {state : σ} {bound bound' : Nat} {result : ρ}
    (h : EndsWithin turn state bound result) (hle : bound ≤ bound') :
    EndsWithin turn state bound' result := by
  obtain ⟨turns, hturns, hends⟩ := h
  exact ⟨turns, Nat.le_trans hturns hle, hends⟩

/-- **A loop with a variant ends**, and with the result that its invariant promises. -/
theorem endsWithin_of_variant {P : σ → ρ → Prop} (variant : σ → Nat)
    (hnext : ∀ {state next result}, P state result → turn state = .inl next →
      P next result ∧ variant next < variant state)
    (hlast : ∀ {state result last}, P state result → turn state = .inr last →
      last = result)
    {state : σ} {result : ρ} (h : P state result) :
    EndsWithin turn state (variant state + 1) result := by
  induction hv : variant state using Nat.strongRecOn generalizing state with
  | ind v ih =>
    subst hv
    cases hturn : turn state with
    | inr last => exact ⟨1, by omega, .last (hlast h hturn ▸ hturn)⟩
    | inl next =>
      obtain ⟨hp, hlt⟩ := hnext h hturn
      obtain ⟨turns, hturns, hends⟩ := ih _ hlt hp rfl
      exact ⟨turns + 1, by omega, .further hturn hends⟩

/-- What every turn keeps says something about the result. -/
theorem Ends.result {I : σ → Prop} {Q : ρ → Prop}
    (hnext : ∀ {state next}, I state → turn state = .inl next → I next)
    (hlast : ∀ {state last}, I state → turn state = .inr last → Q last)
    {state : σ} {turns : Nat} {result : ρ} (h : Ends turn state turns result)
    (hk : I state) : Q result := by
  induction h with
  | last hturn => exact hlast hk hturn
  | further hturn _ ih => exact ih (hnext hk hturn)

end HiveDump.Loop
