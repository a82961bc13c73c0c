import HiveDump.Proofs.Memory.Losses
import HiveDump.Proofs.Report.Passing

/-!
# Walks through a hive with losses

The events of a walk add trees to a report that depend on the losses of the hive only in that some
parts are missing, and in the time stamps that the policy answers (`Report.Loses`). They submit the
faults of the losses beside those that they submit anyhow (`Thinned`). If they break off the report
on the hive without losses, nothing is said of others.

Results:
* `Thins.append`: one run of events behind another;
* `thins_value`, `thins_valueEvents`: values;
* **`thins_around`**, `thins_inside`: nodes and what lies below them;
* **`thins_events`**: a whole walk.
-/

namespace HiveDump

open Report Markup Markup.Tree Walk

/-- The handle that is shown for something that a walk meets, with the name of its element. -/
def Event.shown? : Event → Option (String × Int)
  | .enter n => some ("node", n.handle)
  | .value _ v => some ("value", v.handle)
  | _ => none

namespace MemoryHive

/-- Whether events, met with any losses, add what these leave of some trees, change the tally like
this and submit these faults with those of the losses. The trees show what was met. -/
structure Thinned (h : MemoryHive) (encoding : String) (skipping : Bool) (name : String)
    (evs : List Event) (given : List Policy.Submission) (change : Tally → Tally) (ts : List Tree) :
    Prop where
  named : Named name ts
  shown : shownInAll ts = evs.filterMap Event.shown?
  contributes : ∀ losses : Losses, ∃ more left,
    more.Perm (given ++ evs.flatMap losses.given) ∧
    (∀ p : Policy, LosesAll p.Stamps losses ts (left p)) ∧
    Contributes encoding (h.losing losses).source skipping evs more change left

/-- Whether events only add what can be lost, or break off the report on the hive without losses. -/
def Thins (h : MemoryHive) (encoding : String) (skipping : Bool) (name : String)
    (evs : List Event) : Prop :=
  (∃ given change ts, h.Thinned encoding skipping name evs given change ts) ∨
    BreaksOff encoding h.source skipping evs

variable {h : MemoryHive} {encoding name : String} {skipping : Bool} {evs evs' : List Event}
  {given : List Policy.Submission} {change : Tally → Tally} {ts : List Tree}

/-! ## Sequences of events -/

/-- What becomes of the events without losses. -/
theorem Thinned.whole (ht : h.Thinned encoding skipping name evs given change ts) (hi : h.Intact) :
    ∃ more, Contributes encoding h.source skipping evs more change fun _ => ts := by
  obtain ⟨more, left, -, hleft, hcontributes⟩ := ht.contributes {}
  have hsame : left = fun _ => ts := funext fun p =>
    ((hleft p).eq_thin fun _ hlost => absurd hlost List.not_mem_nil).trans (thinAll_nothing ts)
  rw [losing_nothing hi, hsame] at hcontributes
  exact ⟨more, hcontributes⟩

theorem Thins.nil : h.Thins encoding skipping name [] :=
  .inl ⟨[], id, [], .nil, rfl, fun _ => ⟨[], fun _ => [], .refl _, fun _ => .nil, .nil⟩⟩

theorem perm_interleave {α : Type} (as bs cs ds : List α) :
    (as ++ bs ++ (cs ++ ds)).Perm (as ++ cs ++ (bs ++ ds)) := by
  rw [List.append_assoc, List.append_assoc]
  exact (List.perm_append_comm_assoc bs cs ds).append_left as

theorem Thinned.append {given' : List Policy.Submission} {change' : Tally → Tally}
    {ts' : List Tree} (ht : h.Thinned encoding skipping name evs given change ts)
    (ht' : h.Thinned encoding skipping name evs' given' change' ts') :
    h.Thinned encoding skipping name (evs ++ evs') (given ++ given') (change' ∘ change)
      (ts ++ ts') := by
  refine ⟨ht.named.append ht'.named, ?_, fun losses => ?_⟩
  · rw [shownInAll_append, ht.shown, ht'.shown, List.filterMap_append]
  · obtain ⟨more, left, hperm, hleft, hadds⟩ := ht.contributes losses
    obtain ⟨more', left', hperm', hleft', hadds'⟩ := ht'.contributes losses
    refine ⟨more ++ more', fun p => left p ++ left' (p.after more), ?_, fun p => ?_,
      hadds.append hadds'⟩
    · rw [List.flatMap_append]
      exact (hperm.append hperm').trans (perm_interleave _ _ _ _)
    · exact (hleft p).append ((hleft' _).mono fun _ _ => Policy.Stamps.of_after)

theorem Thins.append (hi : h.Intact) (ht : h.Thins encoding skipping name evs)
    (ht' : h.Thins encoding skipping name evs') : h.Thins encoding skipping name (evs ++ evs') := by
  rcases ht with ⟨given, change, ts, ht⟩ | hbreaks
  · rcases ht' with ⟨given', change', ts', ht'⟩ | hbreaks
    · exact .inl ⟨_, _, _, ht.append ht'⟩
    · obtain ⟨more, hwhole⟩ := ht.whole hi
      exact .inr (hwhole.breaksOff hbreaks)
  · exact .inr (hbreaks.append evs')

/-! ## Events that write nothing -/

theorem Thins.silent_one {ev : Event} (hev : Silent ev) : h.Thins encoding skipping name [ev] := by
  have hnothing {more : List Policy.Submission} {change : Tally → Tally}
      (hshown : ev.shown? = none) (hlost : ∀ losses : Losses, losses.given ev = [])
      (hpasses : ∀ (src : Source) (g : Growing),
        Passes encoding src skipping [ev] more change g fun _ => g) :
      h.Thins encoding skipping name [ev] := by
    refine .inl ⟨more, change, [], .nil, ?_, fun losses => ⟨more, fun _ => [], ?_, fun _ => .nil,
      contributes_nothing (hpasses _)⟩⟩
    · simp [shownInAll, hshown]
    · rw [List.flatMap_singleton, hlost, List.append_nil]
  cases ev with
  | note line => exact hnothing rfl (fun _ => rfl) fun _ _ => passes_note line
  | malformed fault list n =>
    cases skipping with
    | true => exact hnothing rfl (fun _ => rfl) fun _ _ => passes_malformed fault list n
    | false => exact .inr fun _ _ => breaks_malformed fault list n
  | failed fault => exact .inr fun _ _ => breaks_failed fault
  | _ => exact hev.elim

theorem Thins.silent (hi : h.Intact) (hevs : ∀ ev ∈ evs, Silent ev) :
    h.Thins encoding skipping name evs := by
  induction evs with
  | nil => exact .nil
  | cons ev evs ih =>
    obtain ⟨hev, hrest⟩ := List.forall_mem_cons.mp hevs
    exact (Thins.silent_one hev).append hi (ih hrest)

/-! ## Values -/

/-- What stands inside the element of a value are texts of a list. -/
theorem exists_entries_of_valueShown {v : Value} {shown : ValueShown}
    (hv : valueShown v = .ok shown) :
    ∃ entries : List (Option String), shown.texts = entries.map entryTree := by
  unfold valueShown at hv
  obtain ⟨⟨shape, p⟩, -, hv⟩ := Failing.bind_eq_ok.mp hv
  obtain ⟨type, -, hv⟩ := Failing.bind_eq_ok.mp hv
  obtain ⟨payload, hpayload, hv⟩ := Failing.bind_eq_ok.mp hv
  cases hv
  have hnumber {bits : Nat} (hpayload : numberShown bits p = .ok payload) :
      ∃ entries : List (Option String), payload.texts = entries.map entryTree := by
    cases p with
    | number n =>
      cases hpayload
      exact ⟨[], rfl⟩
    | _ => cases hpayload
  cases shape with
  | string =>
    unfold payloadShown at hpayload
    dsimp only at hpayload
    split at hpayload
    · obtain ⟨as, -, rfl⟩ := Failing.map_eq_ok.mp hpayload
      exact ⟨[], rfl⟩
    · cases hpayload
      exact ⟨[], rfl⟩
  | strings =>
    cases hpayload
    exact ⟨textEntries p, rfl⟩
  | dword => exact hnumber hpayload
  | qword => exact hnumber hpayload
  | badString | binary =>
    cases hpayload
    exact ⟨[], rfl⟩
  | none | other =>
    cases hpayload
    refine ⟨[], ?_⟩
    dsimp only
    split <;> rfl

theorem thins_value {v : Value} {found : ValueRecord} (hi : h.Intact)
    (hfound : h.values.get? v.handle = some found) (n : Node) :
    h.Thins encoding skipping "value" [.value n v] := by
  cases hv : valueShown v with
  | error fault => exact .inr fun _ _ => breaks_value hv
  | ok shown =>
    obtain ⟨entries, hentries⟩ := exists_entries_of_valueShown hv
    obtain ⟨more, hleft⟩ := valueLeft_losing hfound (hi.faults v.handle) n
    refine .inl ⟨shown.given, fun t => { t with values := t.values + 1 },
      [.element "value" shown.attributes
        (entries.map entryTree ++ [runsTree ((v.handle, found.length) :: more)])],
      named_singleton _ _ _, ?_, fun losses => ?_⟩
    · rw [shownInAll, shownIn_value]
      rfl
    · obtain ⟨hsurvives, hruns⟩ := hleft losses
      have hshown : ∀ handle ∈ losses.handles, ("node", handle) ∉ shownInAll
          [.element "value" shown.attributes
            (entries.map entryTree ++ [runsTree ((v.handle, found.length) :: more)])] := by
        intro handle _
        rw [shownInAll, shownIn_value]
        simp [shownInAll]
      refine ⟨shown.given ++ losses.given (.value n v), _, ?_, fun p => losesAll_thin _ hshown,
        fun g hroot => ?_⟩
      · rw [List.flatMap_singleton]
      · have hpasses : Passes encoding (h.losing losses).source skipping [.value n v] _ _ g _ :=
          passes_value (outer_ne_nil_of_rooted hroot) hv hsurvives
        rw [hruns, hentries] at hpasses
        rw [thinAll, thin_value]
        exact hpasses

theorem thins_valueEntries (hi : h.Intact) (n : Node) {es : List (Entry Value)}
    (hes : ∀ e ∈ es, ∀ v, e.good? = some v → ∃ found, h.values.get? v.handle = some found) :
    h.Thins encoding skipping "value" (es.flatMap fun e =>
      entryEvents .values n e ++ (e.good?.map (Event.value n)).toList) := by
  induction es with
  | nil => exact .nil
  | cons e es ih =>
    obtain ⟨he, hrest⟩ := List.forall_mem_cons.mp hes
    refine (Thins.append hi ((Thins.silent hi (silent_entryEvents .values n e)).append hi ?_)
      (ih hrest))
    cases hgood : e.good? with
    | none => exact .nil
    | some v =>
      obtain ⟨found, hfound⟩ := he v hgood
      exact thins_value hi hfound n

/-- The values of a key that is there. -/
theorem thins_valueEvents (hi : h.Intact) (hr : h.Recorded) {n : Node} {record : KeyRecord}
    (hkey : h.keys.get? n.handle = some record) :
    h.Thins encoding skipping "value" (valueEvents h.source n) := by
  have hlist : h.source.values n = .ok (met h.resumable record.values) := by
    change h.valueList n = _
    rw [valueList, hkey]
  rw [valueEvents, hlist]
  refine thins_valueEntries hi n fun e he v hgood => hr _ record hkey v ?_
  exact mem_of_mem_met (List.mem_filterMap.mpr ⟨e, he, hgood⟩)

/-- The values of a key that is not there. -/
theorem breaksOff_valueEvents {n : Node} (hkey : h.keys.get? n.handle = none) :
    BreaksOff encoding h.source skipping (valueEvents h.source n) := by
  have hlist : h.source.values n = .error (.noSuchKey n.handle) := by
    change h.valueList n = _
    rw [valueList, hkey]
  rw [valueEvents, hlist]
  exact fun _ _ => breaks_failed (.noSuchKey n.handle)

/-! ## Nodes -/

/-- A node whose values and nodes below only add what can be lost. -/
theorem Thinned.around {n : Node} {record : KeyRecord} {inside : List Event}
    {given' : List Policy.Submission} {change' : Tally → Tally} {values nodes : List Tree}
    (hkey : h.keys.get? n.handle = some record)
    (hv : h.Thinned encoding skipping "value" (valueEvents h.source n) given change values)
    (hn : h.Thinned encoding skipping "node" inside given' change' nodes) :
    h.Thinned encoding skipping "node" (around h.source n inside)
      ((nodeMarks h.source n).1 ++ given ++ given')
      (change' ∘ change ∘ fun t => { t with nodes := t.nodes + 1 })
      [.element "node" (nodeMarks h.source n).2 (timeShown record.timestamp ++
        [runsTree [(n.handle, record.length)]] ++ values ++ nodes)] := by
  refine ⟨named_singleton _ _ _, ?_, fun losses => ?_⟩
  · rw [shownInAll, shownIn_node, hv.shown, hn.shown, Walk.around, enterEvents,
      List.filterMap_append, List.filterMap_append]
    rfl
  · obtain ⟨more, values', hperm, hleft, hadds⟩ := hv.contributes losses
    obtain ⟨more', nodes', hperm', hleft', hadds'⟩ := hn.contributes losses
    have hgiven := (nodeLeft_losing hkey losses .standard).1
    refine ⟨nodeGiven (h.losing losses).source n ++ more ++ more', _, ?_, fun p => ?_,
      contributes_around (survives_timestamp (h.losing losses) n)
        (survives_nodeRuns (h.losing losses) n) hadds hadds'⟩
    · -- The faults of the losses move behind those that are submitted anyhow.
      have hfront := (hperm.append_left _).trans (perm_interleave
        (nodeMarks h.source n).1 (losses.given (.enter n)) given _)
      have hall := (hfront.append hperm').trans (perm_interleave _ _ _ _)
      rwa [hgiven, Walk.around, enterEvents, List.flatMap_append, List.flatMap_append,
        List.flatMap_cons, List.flatMap_singleton, show losses.given (.leave n) = [] from rfl,
        List.append_nil]
    · obtain ⟨-, time, hstamps, hfront⟩ := nodeLeft_losing hkey losses p
      rw [hfront]
      exact .cons (loses_node _ _ _ hv.named hn.named
        ((hleft _).mono fun _ _ => Policy.Stamps.of_after)
        ((hleft' _).mono fun _ _ => Policy.Stamps.of_after) hstamps) .nil

/-- **A node with everything inside it.** -/
theorem thins_around (hi : h.Intact) (hr : h.Recorded) (n : Node) {inside : List Event}
    (hinside : h.Thins encoding skipping "node" inside) :
    h.Thins encoding skipping "node" (around h.source n inside) := by
  have hbreaks {evs : List Event} (hb : BreaksOff encoding h.source skipping evs) :
      BreaksOff encoding h.source skipping (.enter n :: evs) :=
    breaksOff_entered (survives_timestamp h n) (survives_nodeRuns h n) hb
  cases hkey : h.keys.get? n.handle with
  | none => exact .inr (((hbreaks (breaksOff_valueEvents hkey)).append inside).append _)
  | some record =>
    rcases thins_valueEvents hi hr hkey with ⟨_, _, values, hv⟩ | hvalues
    · rcases hinside with ⟨_, _, nodes, hn⟩ | hnodes
      · exact .inl ⟨_, _, _, hv.around hkey hn⟩
      · obtain ⟨more, hwhole⟩ := hv.whole hi
        exact .inr ((hbreaks (hwhole.breaksOff hnodes)).append _)
    · exact .inr (((hbreaks hvalues).append inside).append _)

/-- The nodes below a node. -/
theorem thins_inside (hi : h.Intact) (hr : h.Recorded) {entered after : List Int} {n : Node}
    {rest : List (Entry Node)} (hin : Inside h.source entered n rest evs after) :
    h.Thins encoding skipping "node" evs := by
  induction hin with
  | nil => exact .nil
  | bad he hrest ih => exact (Thins.silent hi (silent_entryEvents _ _ _)).append hi ih
  | @again entered n e child rest behind after he hc hrest ih =>
    have hagain : Silent (.malformed (.revisited child.handle n.handle) .subkeys n) := trivial
    exact (Thins.silent hi (silent_entryEvents _ _ _)).append hi
      ((Thins.silent_one hagain).append hi ih)
  | fresh he hc hchild hrest ihChild ihRest =>
    exact ((Thins.silent hi (silent_entryEvents _ _ _)).append hi
      (thins_around hi hr _ ihChild)).append hi ihRest

/-- **A whole walk.** -/
theorem thins_events (hi : h.Intact) (hr : h.Recorded) :
    h.Thins encoding skipping "node" (events h.source) := by
  obtain ⟨inside, after, hin, hevents⟩ := recursive_events h.source
  rw [hevents]
  exact thins_around hi hr h.source.root (thins_inside hi hr hin)

end MemoryHive

end HiveDump
