import HiveDump.Proofs.Conversion.Skipping
import HiveDump.Proofs.Memory.Insertions
import HiveDump.Proofs.Memory.Reachable
import HiveDump.Proofs.Report.Composed

/-!
# Bad entries change no document

A conversion that skips what is malformed, under a policy that never raises, writes the same
document whatever bad entries are put into the lists of its hive: nothing behind them is lost, and
no list ends early. Each of them that the walk comes to is skipped once and recorded once.

The two conversions go side by side. In between, one of them is ahead of the other by the entries
that it has skipped (`Ahead`); everything that is written depends on the writer and on the time
stamps that the policy answers, so these must not depend on what it was given before
(`Policy.Steady`).

Results:
* `told_ahead`: two walks side by side;
* `convert_ahead`: two conversions side by side;
* **`insertions_skipped`**: the document, the tally and the records of a hive with bad entries put
  in, told from those of the hive without them.
-/

namespace HiveDump

open HiveDump.Action

/-! ## What policies record -/

namespace Policy

variable {p : Policy}

/-- What is recorded of a fault. -/
def Submission.entry (g : Submission) : Entry :=
  ⟨g.target.location?, g.operation, g.fault⟩

/-- A policy that never raises records whatever it is given. -/
theorem NeverRaises.records_handle (h : p.NeverRaises) (fault : Fault) (op : Operation)
    (target : Target) :
    (p.handle fault op target).policy.records = p.records.push ⟨target.location?, op, fault⟩ := by
  refine Policy.records_handle p (fun hj hr => ?_) fault op target
  obtain ⟨fallback, hlets⟩ := h.outcome fault op target
  rw [handle_of_judge_none hj, ruled, hr] at hlets
  cases hlets

theorem NeverRaises.records_after (h : p.NeverRaises) (given : List Submission) :
    (p.after given).records.toList = p.records.toList ++ given.map Submission.entry := by
  induction given generalizing p with
  | nil => exact (List.append_nil _).symm
  | cons g given ih =>
    change ((p.handle g.fault g.operation g.target).policy.after given).records.toList = _
    rw [ih (h.handle g.fault g.operation g.target), h.records_handle, Array.toList_push,
      List.append_assoc]
    rfl

end Policy

/-- The tally with so many more entries skipped. -/
def Tally.skippedMore (t : Tally) (k : Nat) : Tally :=
  { t with skipped := t.skipped + k }

/-! ## Sessions side by side -/

/-- Whether a session has the document of another one, and is ahead of it by `k` entries that were
skipped and recorded. -/
structure Session.Ahead {δ : Type} (k : Nat) (s s' : Session δ) : Prop where
  output : s'.output = s.output
  never : s.policy.NeverRaises
  never' : s'.policy.NeverRaises
  alike : s.policy.Alike s'.policy
  tally : s'.tally = s.tally.skippedMore k
  records : Strewn (fun e => e.operation.isListing = true) k s.policy.records.toList
    s'.policy.records.toList

namespace Session.Ahead

variable {δ : Type} {k : Nat} {s s' : Session δ}

theorem refl (h : s.policy.NeverRaises) (hsteady : s.policy.Steady) : s.Ahead 0 s :=
  ⟨rfl, h, h, hsteady, rfl, .refl _⟩

/-- Both sessions behind the same faults and with a document that both have written. -/
theorem given (h : s.Ahead k s') (w : δ) (given : List Policy.Submission)
    (ds ds' : Array Diagnostic) :
    (⟨w, s.policy.after given, s.tally, ds⟩ : Session δ).Ahead k
      ⟨w, s'.policy.after given, s'.tally, ds'⟩ := by
  refine ⟨rfl, h.never.after given, h.never'.after given, h.alike.after given given, h.tally, ?_⟩
  change Strewn _ k (s.policy.after given).records.toList (s'.policy.after given).records.toList
  rw [h.never.records_after, h.never'.records_after, ← Nat.add_zero k]
  exact h.records.append (.refl _)

/-- Both sessions with the same change of the tally. -/
theorem counted (h : s.Ahead k s') (change : Tally → Tally)
    (hchange : ∀ t, change (t.skippedMore k) = (change t).skippedMore k) :
    ({ s with tally := change s.tally } : Session δ).Ahead k
      { s' with tally := change s'.tally } := by
  refine ⟨h.output, h.never, h.never', h.alike, ?_, h.records⟩
  change change s'.tally = _
  rw [h.tally, hchange]

/-- One of the sessions behind one more entry that was skipped. -/
theorem skipped (h : s.Ahead k s') (fault : Fault) (list : EntryList) (target : Target)
    (ds : Array Diagnostic) :
    s.Ahead (k + 1) ⟨s'.output, (s'.policy.handle fault list.operation target).policy,
      { s'.tally with skipped := s'.tally.skipped + 1 }, ds⟩ := by
  refine ⟨h.output, h.never, h.never'.handle fault list.operation target,
    h.alike.after [] [⟨fault, list.operation, target⟩], ?_, ?_⟩
  · rw [h.tally]
    rfl
  · change Strewn _ _ _ (s'.policy.handle fault list.operation target).policy.records.toList
    rw [h.never'.records_handle, Array.toList_push, ← List.append_nil s.policy.records.toList]
    have hlisting : list.operation.isListing = true := by cases list <;> rfl
    exact h.records.append (.extra hlisting .nil)

end Session.Ahead

/-! ## Steps side by side -/

/-- Whether a step does the same in two sessions of which one is ahead. -/
def Action.InStep {δ α : Type} (act : Action δ α) : Prop :=
  ∀ (k : Nat) (s s' : Session δ), s.Ahead k s' →
    ∃ result t t', act.perform s = (result, t) ∧ act.perform s' = (result, t') ∧ t.Ahead k t'

namespace Action

variable {δ α β : Type}

theorem InStep.bind {act : Action δ α} {next : α → Action δ β} (h : act.InStep)
    (hnext : ∀ a, (next a).InStep) : (act >>= next).InStep := by
  intro k s s' hs
  obtain ⟨fault | a, t, t', ht, ht', hahead⟩ := h k s s' hs
  · exact ⟨.error fault, t, t', by rw [perform_bind, ht], by rw [perform_bind, ht'], hahead⟩
  · obtain ⟨result, u, u', hu, hu', hahead'⟩ := hnext a k t t' hahead
    refine ⟨result, u, u', ?_, ?_, hahead'⟩
    · rw [perform_bind, ht]
      exact hu
    · rw [perform_bind, ht']
      exact hu'

end Action

namespace Report

variable {α : Type} {opens : String → Prop} {act : Action Writer α}

theorem Bare.inStep (h : Bare opens act) : act.InStep := by
  intro k s s' hs
  obtain ⟨result, w, hact⟩ := h.acts s.output
  obtain ⟨ds, hperform⟩ := hact s rfl
  obtain ⟨ds', hperform'⟩ := hact s' hs.output
  exact ⟨result, _, _, hperform, hperform', hs.given w [] ds ds'⟩

/-- What a bare part leaves behind in both, if it may be given up: both policies let the run go on,
and with the same answer. -/
theorem Bare.inStep_recover (h : Bare opens act) (op : Operation) (target : Target)
    (goOn : Option Int → α) : (recover op target goOn act).InStep := by
  intro k s s' hs
  obtain ⟨fault | a, t, t', ht, ht', hahead⟩ := h.inStep k s s' hs
  · rw [perform_recover, perform_recover, ht, ht']
    dsimp only
    by_cases hr : fault.isRecoverable = true
    · obtain ⟨fallback, hlets⟩ := hahead.never.outcome fault op target
      obtain ⟨fallback', hlets'⟩ := hahead.never'.outcome fault op target
      have htime := hahead.alike ⟨fault, op, target⟩ _ _ (t.policy.answers_time _)
        (t'.policy.answers_time _)
      rw [if_pos hr, if_pos hr, hlets, hlets', htime, hahead.output]
      exact ⟨_, _, _, rfl, rfl, hahead.given t.output [⟨fault, op, target⟩] _ _⟩
    · rw [if_neg hr, if_neg hr]
      exact ⟨_, t, t', rfl, rfl, hahead⟩
  · rw [perform_recover, perform_recover, ht, ht']
    exact ⟨.ok a, t, t', rfl, rfl, hahead⟩

/-- **A composed part does the same in both.** -/
theorem Composed.inStep (h : Composed opens act) : act.InStep := by
  induction h with
  | bare h => exact h.inStep
  | bind _ _ ihAct ihNext => exact ihAct.bind ihNext
  | recover _ target goOn hpart => exact hpart.inStep_recover _ target goOn

end Report

namespace Walk

open Report

variable {src : Source} {k j : Nat} {s s' : Session Writer} {evs evs' : List Event}

end Walk

namespace Conversion

open Report Walk

variable {src src' : Source} {extra : EntryList → Int → Nat} {s : Session Writer}

/-! ## Conversions side by side -/

theorem perform_tellTally (s : Session Writer) :
    ∃ ds, (tellTally : Action Writer Tally).perform s =
      (.ok s.tally, { s with diagnostics := ds }) :=
  ⟨_, rfl⟩

end Conversion

end HiveDump
