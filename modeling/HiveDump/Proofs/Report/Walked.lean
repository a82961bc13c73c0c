import HiveDump.Conversion
import HiveDump.Proofs.Report.Elements
import HiveDump.Proofs.Walk.Recursive

/-!
# The report of a walk

The events of a walk write trees, and how they do follows the recursive walk: the events around a
node write its element, with its values and then the nodes below it inside. Only the outermost
node has the handle of the root, since no handle is entered twice.

Results:
* `adding_valueEntries`: the values of a node;
* **`yields_around`**: a node with everything inside it;
* **`adding_inside`**: the nodes below a node, none of them the root's;
* **`yields_run`**: a whole walk writes the outermost node.
-/

namespace HiveDump.Report

open Markup Markup.Tree Walk

variable {src : Source} {skipping : Bool} {sort : Tree → Prop} {g : Growing}
  {evs evs' : List Event}

/-- What a walk makes of its events, in order. -/
def told (src : Source) (skipping : Bool) (evs : List Event) : Action Writer Unit :=
  evs.forM (step skipping (visitor src))

/-- Whether events add trees of a sort, wherever they are met, or cut the document off. -/
def Adding (src : Source) (skipping : Bool) (sort : Tree → Prop) (evs : List Event) : Prop :=
  ∀ g : Growing, g.Rooted rootName [] →
    Yields (Page g) (told src skipping evs) (fun _ => Adds g (∀ t ∈ ·, sort t)) Cut

/-! ## Sequences of events -/

theorem Adding.nil : Adding src skipping sort [] :=
  fun _ _ => .forM_nil fun _ hw => ⟨[], by simp, by rwa [Growing.add_nil]⟩

theorem Adding.append (h : Adding src skipping sort evs) (h' : Adding src skipping sort evs') :
    Adding src skipping sort (evs ++ evs') := by
  intro g hroot
  refine (h g hroot).forM_append (.of_exists fun ts => .of_and fun hts => ?_)
  refine (h' (g.add ts) (hroot.add ts)).imp_post fun _ w hw => ?_
  obtain ⟨us, hus, hpage⟩ := hw
  rw [Growing.add_add] at hpage
  exact ⟨ts ++ us, List.forall_mem_append.mpr ⟨hts, hus⟩, hpage⟩

/-- Events that write one tree. -/
theorem Adding.one (h : ∀ g : Growing, g.Rooted rootName [] →
    Yields (Page g) (told src skipping evs) (fun _ => Adds g (One sort))
      Cut) : Adding src skipping sort evs := by
  refine fun g hroot => (h g hroot).imp_post ?_
  rintro _ w ⟨_, ⟨t, rfl, ht⟩, hpage⟩
  exact ⟨[t], List.forall_mem_singleton.mpr ht, hpage⟩

/-! ## Events that write nothing -/

/-- Whether the visitor is not told of an event. -/
def Silent : Event → Prop
  | .note _ | .malformed .. | .failed _ => True
  | _ => False

theorem silent_entryEvents {α : Type} (list : EntryList) (n : Node) (e : Entry α) :
    ∀ ev ∈ entryEvents list n e, Silent ev := by
  unfold entryEvents
  rw [List.forall_mem_append]
  refine ⟨by simp [Silent], ?_⟩
  split
  · simp
  · rw [List.forall_mem_singleton, faultEvent]
    split <;> trivial

theorem yields_silent {pre : Writer → Prop} {ev : Event} (h : Silent ev) :
    Yields pre (step skipping (visitor src) ev) (fun _ => pre) pre := by
  cases ev with
  | note line => exact yields_log line
  | malformed fault list n =>
    rw [step]
    split
    · exact (yields_count _).bind fun _ => yields_submit _ _ _
    · exact .throw fun _ h => h
  | failed fault => exact .throw fun _ h => h
  | _ => exact h.elim

theorem Adding.silent (h : ∀ ev ∈ evs, Silent ev) : Adding src skipping sort evs := by
  induction evs with
  | nil => exact .nil
  | cons ev evs ih =>
    obtain ⟨hev, hevs⟩ := List.forall_mem_cons.mp h
    refine fun g hroot => Yields.forM_cons ?_ (ih hevs g hroot)
    exact (yields_silent hev).imp_fail fun _ => cut_of_page hroot

/-! ## Values -/

theorem adding_value (n : Node) (v : Value) : Adding src skipping IsValue [.value n v] := by
  refine .one fun g hroot => Yields.forM_cons ?_ (.forM_nil fun _ h => h)
  rw [step]
  exact (yields_count _).bind fun _ => yields_value hroot src v

theorem adding_valueEntries (n : Node) (es : List (Entry Value)) :
    Adding src skipping IsValue (es.flatMap fun e =>
      entryEvents .values n e ++ (e.good?.map (Event.value n)).toList) := by
  induction es with
  | nil => exact .nil
  | cons e es ih =>
    refine ((Adding.silent (silent_entryEvents .values n e)).append ?_).append ih
    cases e.good? with
    | none => exact .nil
    | some v => exact adding_value n v

/-! ## Nodes -/

/-- A node is left: its element is complete. -/
theorem yields_leave {outermost : Bool} {attributes : List Attribute}
    {time runs values nodes : List Tree} (hroot : g.Rooted rootName []) (n : Node)
    (hnode : IsNode outermost (.element "node" attributes (time ++ runs ++ values ++ nodes))) :
    Yields (Page ((g.opened "node" attributes).add (time ++ runs ++ values ++ nodes)))
      (told src skipping [.leave n]) (fun _ => Adds g (One (IsNode outermost)))
      Cut := by
  refine Yields.forM_cons ?_ (.forM_nil fun _ h => h)
  change Yields _ (Action.write Writer.endElement) _ _
  refine .write fun w hpage => ?_
  have hend : PlainToken (.endTag "node") := ⟨by decide, by decide⟩
  obtain ⟨w', hcall, hpage'⟩ := Writer.At.endElement hpage (outer_ne_nil_of_rooted hroot) hend
  exact ⟨(), w', hcall, _, ⟨_, rfl, hnode⟩, hpage'⟩

/-- **A node with everything inside it.** -/
theorem yields_around {inside : List Event} (h : Adding src skipping (IsNode false) inside)
    (hroot : g.Rooted rootName []) (n : Node) :
    Yields (Page g) (told src skipping (around src n inside))
      (fun _ => Adds g (One (IsNode (src.isRoot n)))) Cut := by
  have henter : Yields (Page g) (step skipping (visitor src) (.enter n))
      (fun _ => Begun (src.isRoot n) g) Cut := by
    rw [step]
    exact (yields_count _).bind fun _ => yields_nodeStart hroot src n
  rw [around, enterEvents, List.append_assoc, List.cons_append]
  refine Yields.forM_cons henter ?_
  refine .of_exists fun attributes => .of_exists fun time => .of_exists fun runs => .of_and ?_
  rintro ⟨hmarked, htime, hruns⟩
  have hopen := (hroot.opened "node" attributes).add (time ++ runs)
  refine Yields.forM_append (adding_valueEntries n _ _ hopen) ?_
  refine .of_exists fun values => .of_and fun hvalues => ?_
  refine Yields.forM_append (h _ (hopen.add values)) ?_
  refine .of_exists fun nodes => .of_and fun hnodes => ?_
  rw [Growing.add_add, Growing.add_add, ← List.append_assoc]
  exact yields_leave hroot n (.node htime hruns hvalues hnodes hmarked.mark hmarked.no)

/-- **The nodes below a node**: none of them is marked as the root, whose handle is entered
before them. -/
theorem adding_inside {entered after : List Int} {n : Node} {rest : List (Entry Node)}
    (h : Inside src entered n rest evs after) (hroot : src.root.handle ∈ entered) :
    Adding src skipping (IsNode false) evs ∧ src.root.handle ∈ after := by
  induction h with
  | nil => exact ⟨.nil, hroot⟩
  | bad he hrest ih =>
    obtain ⟨hadding, hafter⟩ := ih hroot
    exact ⟨(Adding.silent (silent_entryEvents _ _ _)).append hadding, hafter⟩
  | @again entered n e child rest behind after he hc hrest ih =>
    obtain ⟨hadding, hafter⟩ := ih hroot
    have hagain : ∀ ev ∈ [Event.malformed (.revisited child.handle n.handle) .subkeys n],
        Silent ev := List.forall_mem_singleton.mpr trivial
    exact ⟨(Adding.silent (silent_entryEvents _ _ _)).append
      ((Adding.silent hagain).append hadding), hafter⟩
  | @fresh entered n e child rest here between behind after he hc hchild hrest ihChild ihRest =>
    obtain ⟨hchild, hbetween⟩ := ihChild (List.mem_cons_of_mem _ hroot)
    obtain ⟨hrest, hafter⟩ := ihRest hbetween
    have hinner : src.isRoot child = false := by
      rw [Source.isRoot, beq_eq_false_iff_ne]
      intro heq
      exact hc (heq ▸ hroot)
    have haround : Adding src skipping (IsNode false) (around src child here) :=
      .one fun g hg => hinner ▸ yields_around hchild hg child
    exact ⟨((Adding.silent (silent_entryEvents _ _ _)).append haround).append hrest, hafter⟩

/-- **A whole walk writes the outermost node**, or cuts the document off. -/
theorem yields_run (src : Source) (skipping : Bool) (hroot : g.Rooted rootName []) :
    Yields (Page g) (run src skipping (visitor src))
      (fun _ => Adds g (One (IsNode true))) Cut := by
  obtain ⟨inside, after, hinside, hevents⟩ := recursive_events src
  obtain ⟨hadding, -⟩ := adding_inside hinside (List.mem_singleton.mpr rfl)
  have houtermost : src.isRoot src.root = true := beq_self_eq_true _
  have htold := houtermost ▸ yields_around hadding hroot src.root
  rw [← hevents] at htold
  exact htold.bind fun _ => yields_get.bind fun _ => (yields_log _).bind fun _ =>
    .pure fun _ h => h

end HiveDump.Report
