import HiveDump.Proofs.Report.ShownValues
import HiveDump.Proofs.Report.Walked

/-!
# What a report adds for the events of a walk

Where no policy raises, `Passes` says all that becomes of a run of events: from every document that
stands for some trees the faults that are submitted, the change of the tally, and the trees that the
document stands for behind it. These may depend on the policy, which answers where a node has no
time stamp. Inside the root a run of events adds trees (`Contributes`) or breaks the report off
(`BreaksOff`).

Results:
* **`Contributes.append`**, `Contributes.breaksOff`: one run of events behind another;
* `passes_enter`, `passes_value`, `passes_leave`, `passes_note`, `passes_malformed`: single events;
* `breaks_value`, `breaks_malformed`, `breaks_failed`: those that break the report off;
* **`contributes_around`**, `breaksOff_entered`: a node with everything inside it.
-/

namespace HiveDump.Report

open HiveDump.Action Markup Markup.Tree Walk

variable {encoding : String} {src : Source} {skipping : Bool} {evs evs' : List Event} {ev : Event}
  {given more : List Policy.Submission} {change change' : Tally → Tally} {g : Growing}
  {ts us : Policy → List Tree}

/-! ## Runs of events -/

/-- Whether events, from every document that stands for `g` and wherever no policy raises, submit
these faults, change the tally like this and leave a document that stands for what is `behind`. -/
def Passes (encoding : String) (src : Source) (skipping : Bool) (evs : List Event)
    (given : List Policy.Submission) (change : Tally → Tally) (g : Growing)
    (behind : Policy → Growing) : Prop :=
  ∀ s : Session Writer, Stands encoding g s.output → s.policy.NeverRaises →
    ∃ w ds, (told src skipping evs).perform s =
      (.ok (), ⟨w, s.policy.after given, change s.tally, ds⟩) ∧
        Stands encoding (behind s.policy) w

/-- Whether events, from every document that stands for `g` and wherever no policy raises, end the
report with a fault. -/
def Breaks (encoding : String) (src : Source) (skipping : Bool) (evs : List Event) (g : Growing) :
    Prop :=
  ∀ s : Session Writer, Stands encoding g s.output → s.policy.NeverRaises →
    ∃ fault t, (told src skipping evs).perform s = (.error fault, t)

/-- Whether events add these trees wherever a document is inside its root. -/
def Contributes (encoding : String) (src : Source) (skipping : Bool) (evs : List Event)
    (given : List Policy.Submission) (change : Tally → Tally) (ts : Policy → List Tree) : Prop :=
  ∀ g : Growing, g.Rooted rootName [] →
    Passes encoding src skipping evs given change g fun p => g.add (ts p)

/-- Whether events break the report off wherever a document is inside its root. -/
def BreaksOff (encoding : String) (src : Source) (skipping : Bool) (evs : List Event) : Prop :=
  ∀ g : Growing, g.Rooted rootName [] → Breaks encoding src skipping evs g

theorem told_append (src : Source) (skipping : Bool) (evs evs' : List Event) (s : Session Writer) :
    (told src skipping (evs ++ evs')).perform s =
      match (told src skipping evs).perform s with
      | (.ok _, t) => (told src skipping evs').perform t
      | (.error fault, t) => (.error fault, t) := by
  unfold told
  rw [perform_forM_append]
  rcases (evs.forM (step skipping (visitor src))).perform s with ⟨_ | _, t⟩ <;> rfl

theorem Passes.append {mid : Policy → Growing} {last : Policy → Policy → Growing}
    (h : Passes encoding src skipping evs given change g mid)
    (h' : ∀ p, Passes encoding src skipping evs' more change' (mid p) (last p)) :
    Passes encoding src skipping (evs ++ evs') (given ++ more) (change' ∘ change) g
      fun p => last p (p.after given) := by
  intro s hw hp
  obtain ⟨w, ds, hfirst, hw'⟩ := h s hw hp
  obtain ⟨w', ds', hbehind, hw''⟩ := h' _ ⟨w, s.policy.after given, change s.tally, ds⟩ hw'
    (hp.after given)
  refine ⟨w', ds', ?_, hw''⟩
  rw [told_append, hfirst, Policy.after_append]
  exact hbehind

theorem Passes.breaks {mid : Policy → Growing}
    (h : Passes encoding src skipping evs given change g mid)
    (h' : ∀ p, Breaks encoding src skipping evs' (mid p)) :
    Breaks encoding src skipping (evs ++ evs') g := by
  intro s hw hp
  obtain ⟨w, ds, hfirst, hw'⟩ := h s hw hp
  obtain ⟨fault, t, hbehind⟩ := h' _ ⟨w, s.policy.after given, change s.tally, ds⟩ hw'
    (hp.after given)
  refine ⟨fault, t, ?_⟩
  rw [told_append, hfirst]
  exact hbehind

theorem Breaks.append (h : Breaks encoding src skipping evs g) (evs' : List Event) :
    Breaks encoding src skipping (evs ++ evs') g := by
  intro s hw hp
  obtain ⟨fault, t, hfirst⟩ := h s hw hp
  refine ⟨fault, t, ?_⟩
  rw [told_append, hfirst]

/-- Events that leave the document as it is. -/
theorem contributes_nothing
    (h : ∀ g : Growing, Passes encoding src skipping evs given change g fun _ => g) :
    Contributes encoding src skipping evs given change fun _ => [] := by
  intro g _
  simp only [Growing.add_nil]
  exact h g

theorem Contributes.nil : Contributes encoding src skipping [] [] id fun _ => [] :=
  contributes_nothing fun _ s hw _ => ⟨s.output, s.diagnostics, rfl, hw⟩

/-- **One run of events behind another** adds its trees under what the policy has become. -/
theorem Contributes.append (h : Contributes encoding src skipping evs given change ts)
    (h' : Contributes encoding src skipping evs' more change' us) :
    Contributes encoding src skipping (evs ++ evs') (given ++ more) (change' ∘ change)
      fun p => ts p ++ us (p.after given) := by
  intro g hroot
  have hboth := (h g hroot).append fun p => h' (g.add (ts p)) (hroot.add _)
  simpa only [Growing.add_add] using hboth

theorem Contributes.breaksOff (h : Contributes encoding src skipping evs given change ts)
    (h' : BreaksOff encoding src skipping evs') : BreaksOff encoding src skipping (evs ++ evs') :=
  fun g hroot => (h g hroot).breaks fun _ => h' _ (hroot.add _)

theorem BreaksOff.append (h : BreaksOff encoding src skipping evs) (evs' : List Event) :
    BreaksOff encoding src skipping (evs ++ evs') :=
  fun g hroot => (h g hroot).append evs'

/-! ## Single events -/

theorem told_singleton (src : Source) (skipping : Bool) (ev : Event) (s : Session Writer) :
    (told src skipping [ev]).perform s = (step skipping (visitor src) ev).perform s := by
  rw [told, perform_forM_cons]
  rcases (step skipping (visitor src) ev).perform s with ⟨_ | _, t⟩ <;> rfl

theorem passes_of_brings {act : Action Writer Unit} {g' : Growing}
    (hstep : step skipping (visitor src) ev = (do count change; act))
    (h : Brings (Stands encoding g) act given () (Stands encoding g')) :
    Passes encoding src skipping [ev] given change g fun _ => g' := by
  intro s hw hp
  obtain ⟨w', hdoes, hw'⟩ := h s.output hw
  obtain ⟨ds, hact⟩ := hdoes.perform (s := { s with tally := change s.tally }) hp
  refine ⟨w', ds, ?_, hw'⟩
  rw [told_singleton, hstep, perform_bind, perform_count]
  exact hact

theorem passes_enter {n : Node} (hstamp : Survives (src.timestamp n))
    (hruns : Survives (nodeRuns src n)) :
    Passes encoding src skipping [.enter n] (nodeGiven src n)
      (fun t => { t with nodes := t.nodes + 1 }) g
      fun p => (g.opened "node" (nodeMarks src n).2).add (nodeFront p src n) := by
  intro s hw hp
  obtain ⟨w', hdoes, hw'⟩ := nodeStart_survives hstamp hruns hw s.policy
  obtain ⟨ds, hact⟩ :=
    hdoes.perform (s := { s with tally := { s.tally with nodes := s.tally.nodes + 1 } }) hp
  exact ⟨w', ds, (told_singleton src skipping (.enter n) s).trans hact, hw'⟩

theorem passes_leave {attributes : List Attribute} {inside : List Tree} (hinner : g.outer ≠ [])
    (n : Node) :
    Passes encoding src skipping [.leave n] [] id ((g.opened "node" attributes).add inside)
      fun _ => g.add [.element "node" attributes inside] := by
  intro s hw hp
  obtain ⟨w', hdoes, hw'⟩ := brings_endElement hinner s.output hw
  obtain ⟨ds, hact⟩ := hdoes.perform hp
  exact ⟨w', ds, (told_singleton src skipping (.leave n) s).trans hact, hw'⟩

theorem passes_value {n : Node} {v : Value} {shown : ValueShown} (hinner : g.outer ≠ [])
    (h : valueShown v = .ok shown) (hruns : Survives (valueRuns src v)) :
    Passes encoding src skipping [.value n v] (shown.given ++ (valueRunsLeft src v).1)
      (fun t => { t with values := t.values + 1 }) g
      fun _ => g.add [.element "value" shown.attributes (shown.texts ++ (valueRunsLeft src v).2)] :=
  passes_of_brings rfl (brings_value hinner h hruns)

theorem passes_note (line : LogLine) :
    Passes encoding src skipping [.note line] [] id g fun _ => g :=
  fun s hw _ => ⟨s.output, _, told_singleton src skipping (.note line) s, hw⟩

/-- A fault of an entry is submitted even if it could not be survived elsewhere. -/
theorem passes_malformed (fault : Fault) (list : EntryList) (n : Node) :
    Passes encoding src true [.malformed fault list n] [⟨fault, list.operation, .node n⟩]
      (fun t => { t with skipped := t.skipped + 1 }) g fun _ => g := by
  intro s hw hp
  obtain ⟨fallback, hlets⟩ := hp.outcome fault list.operation (.node n)
  have hstep : (step true (visitor src) (.malformed fault list n)).perform s =
      (submit fault list.operation (.node n)).perform
        { s with tally := { s.tally with skipped := s.tally.skipped + 1 } } := rfl
  rw [told_singleton, hstep, perform_submit, hlets]
  exact ⟨s.output, _, rfl, hw⟩

/-! ## Events that break a report off -/

theorem breaks_malformed (fault : Fault) (list : EntryList) (n : Node) :
    Breaks encoding src false [.malformed fault list n] g := by
  intro s _ _
  refine ⟨.aborted list.operation n.handle fault, s, ?_⟩
  rw [told_singleton]
  rfl

theorem breaks_failed (fault : Fault) : Breaks encoding src skipping [.failed fault] g := by
  intro s _ _
  refine ⟨fault, s, ?_⟩
  rw [told_singleton]
  rfl

theorem breaks_value {n : Node} {v : Value} {fault : Fault} (h : valueShown v = .error fault) :
    Breaks encoding src skipping [.value n v] g := by
  intro s hw hp
  have hends : Ends (Stands encoding g) (value src v) fault := ends_value h
  obtain ⟨given, w', hdoes⟩ := hends s.output hw
  obtain ⟨ds, hact⟩ :=
    hdoes.perform (s := { s with tally := { s.tally with values := s.tally.values + 1 } }) hp
  have htold : (told src skipping [.value n v]).perform s = _ :=
    (told_singleton src skipping (.value n v) s).trans hact
  exact ⟨fault, _, htold⟩

/-! ## Nodes -/

/-- **A node with everything inside it.** -/
theorem contributes_around {n : Node} {values nodes : Policy → List Tree}
    (hstamp : Survives (src.timestamp n)) (hruns : Survives (nodeRuns src n))
    (hvalues : Contributes encoding src skipping evs given change values)
    (hnodes : Contributes encoding src skipping evs' more change' nodes) :
    Contributes encoding src skipping (.enter n :: evs ++ evs' ++ [.leave n])
      (nodeGiven src n ++ given ++ more)
      (change' ∘ change ∘ fun t => { t with nodes := t.nodes + 1 })
      fun p => [.element "node" (nodeMarks src n).2
        (nodeFront p src n ++ values (p.after (nodeGiven src n)) ++
          nodes (p.after (nodeGiven src n ++ given)))] := by
  intro g hroot
  have hopen (p : Policy) := (hroot.opened "node" (nodeMarks src n).2).add (nodeFront p src n)
  have hinside := ((passes_enter hstamp hruns).append fun p => hvalues _ (hopen p)).append
    fun p => hnodes _ ((hopen p).add _)
  simp only [Growing.add_add] at hinside
  have hall := hinside.append fun p => passes_leave (outer_ne_nil_of_rooted hroot) n
  rwa [List.append_nil] at hall

/-- What breaks off inside a node. -/
theorem breaksOff_entered {n : Node} (hstamp : Survives (src.timestamp n))
    (hruns : Survives (nodeRuns src n)) (h : BreaksOff encoding src skipping evs) :
    BreaksOff encoding src skipping (.enter n :: evs) :=
  fun _ hroot => (passes_enter hstamp hruns).breaks fun _ => h _ ((hroot.opened _ _).add _)

end HiveDump.Report
