import HiveDump.Conversion
import HiveDump.Proofs.Report.Charted
import HiveDump.Proofs.Walk.Recursive

/-!
# The courses of walks

A node opens an element when it is entered and closes it when it is left, so the elements that are
open tell how deep in the hive a walk is. Any stretch of what a walk meets can be charted from its
depth, wherever the walk is cut.

Results:
* **`level_events`**: a walk comes back to where it started;
* **`charts_told`**: any stretch of a walk;
* **`charts_body`**, `charts_finish`: the content of a document and its end.
-/

namespace HiveDump.Report

/-! ## Depth -/

/-- The elements that are open in the content of a node at a depth. -/
def nodesOpen (depth : Nat) : List String :=
  List.replicate depth "node" ++ [rootName]

end HiveDump.Report

namespace HiveDump

/-- How deep a walk is behind an event; a node can only be left below the root. -/
def Event.depth? : Event → Nat → Option Nat
  | enter _, depth => some (depth + 1)
  | leave _, depth + 1 => some depth
  | leave _, 0 => none
  | _, depth => some depth

namespace Walk

open Report

variable {src : Source} {skipping : Bool} {evs evs' : List Event}

/-- How deep a walk is behind events. -/
def depthBehind? (evs : List Event) (depth : Nat) : Option Nat :=
  evs.foldlM (fun d ev => ev.depth? d) depth

theorem depthBehind?_cons (ev : Event) (evs : List Event) (depth : Nat) :
    depthBehind? (ev :: evs) depth = (ev.depth? depth).bind (depthBehind? evs) :=
  List.foldlM_cons

theorem depthBehind?_append (evs evs' : List Event) (depth : Nat) :
    depthBehind? (evs ++ evs') depth = (depthBehind? evs depth).bind (depthBehind? evs') :=
  List.foldlM_append

/-- Whether events lead back to the depth that they start at. -/
def Level (evs : List Event) : Prop :=
  ∀ depth, depthBehind? evs depth = some depth

theorem level_nil : Level [] :=
  fun _ => rfl

theorem Level.append (h : Level evs) (h' : Level evs') : Level (evs ++ evs') := by
  intro depth
  rw [depthBehind?_append, h, Option.bind_some, h']

theorem level_singleton {ev : Event} (h : ∀ depth, ev.depth? depth = some depth) : Level [ev] := by
  intro depth
  rw [depthBehind?_cons, h]
  rfl

theorem level_flatMap {α : Type} {f : α → List Event} (h : ∀ a, Level (f a)) (as : List α) :
    Level (as.flatMap f) := by
  induction as with
  | nil => exact level_nil
  | cons a as ih => exact (h a).append ih

theorem level_entryEvents {α : Type} (list : EntryList) (n : Node) (e : Entry α) :
    Level (entryEvents list n e) := by
  have hnotes : Level (e.trace.map Event.note) := by
    rw [List.map_eq_flatMap]
    exact level_flatMap (fun _ => level_singleton fun _ => rfl) _
  refine hnotes.append ?_
  cases e.outcome with
  | ok a => exact level_nil
  | error fault =>
    dsimp only
    unfold faultEvent
    split
    · exact level_singleton fun _ => rfl
    · exact level_singleton fun _ => rfl

theorem level_valueEvents (src : Source) (n : Node) : Level (valueEvents src n) := by
  refine level_flatMap (fun e => (level_entryEvents .values n e).append ?_) _
  cases e.good? with
  | none => exact level_nil
  | some v => exact level_singleton fun _ => rfl

theorem level_around (src : Source) (n : Node) {inside : List Event} (h : Level inside) :
    Level (around src n inside) := by
  intro depth
  unfold around enterEvents
  rw [List.append_assoc, List.cons_append, depthBehind?_cons]
  change depthBehind? _ (depth + 1) = _
  rw [← List.append_assoc, depthBehind?_append, ((level_valueEvents src n).append h) (depth + 1)]
  rfl

theorem level_inside {entered after : List Int} {n : Node} {rest : List (Entry Node)}
    (h : Inside src entered n rest evs after) : Level evs := by
  induction h with
  | nil => exact level_nil
  | bad he hrest ih => exact (level_entryEvents _ _ _).append ih
  | @again entered n e child rest behind after he hc hrest ih =>
    have hagain : Level [Event.malformed (.revisited child.handle n.handle) .subkeys n] :=
      level_singleton fun _ => rfl
    exact (level_entryEvents _ _ _).append (hagain.append ih)
  | fresh he hc hchild hrest ihChild ihRest =>
    exact ((level_entryEvents _ _ _).append (level_around _ _ ihChild)).append ihRest

/-- **A walk comes back to where it started.** -/
theorem level_events (src : Source) : Level (events src) := by
  obtain ⟨inside, after, hinside, hevents⟩ := recursive_events src
  rw [hevents]
  exact level_around src src.root (level_inside hinside)

/-! ## Charts of walks -/

variable {d d' : Nat}

theorem charts_step (src : Source) (skipping : Bool) {ev : Event} (h : ev.depth? d = some d') :
    Charts rootName none (nodesOpen d) (step skipping (visitor src) ev) fun _ => nodesOpen d' := by
  cases ev with
  | note line =>
    cases h
    exact charts_log line
  | enter n =>
    cases h
    exact (charts_count _).bind fun _ => charts_nodeStart src n
  | value n v =>
    cases h
    exact (charts_count _).bind fun _ => steady_value src v
  | leave n =>
    cases d with
    | zero => cases h
    | succ depth =>
      cases h
      exact charts_nodeEnd
  | malformed fault list n =>
    cases h
    rw [step]
    split
    · exact (charts_count _).bind fun _ => charts_submit _ _ _
    · exact charts_throw rfl
  | failed fault =>
    cases h
    exact charts_raise returns_none fault

/-- **Any stretch of a walk** can be charted. -/
theorem charts_told (src : Source) (skipping : Bool) (h : depthBehind? evs d = some d') :
    Charts rootName none (nodesOpen d) (evs.forM (step skipping (visitor src)))
      fun _ => nodesOpen d' := by
  induction evs generalizing d with
  | nil =>
    cases h
    exact charts_pure ()
  | cons ev evs ih =>
    rw [depthBehind?_cons] at h
    obtain ⟨depth, hev, hevs⟩ := Option.bind_eq_some_iff.mp h
    exact (charts_step src skipping hev).bind fun _ => ih hevs

/-- The end of a walk tells its tally. -/
def tellTally {δ : Type} : Action δ Tally := do
  let tally := (← get).tally
  Action.debug .walk s!"traversal finished: {describeTally tally}"
  return tally

theorem charts_tellTally {root : String} {retry : Option (List String)} {ns : List String} :
    Charts root retry ns tellTally fun _ => ns :=
  charts_silent id id (fun _ => rfl) fun _ _ _ _ => ⟨_, rfl⟩

theorem charts_run (src : Source) (skipping : Bool) :
    Charts rootName none [rootName] (run src skipping (visitor src)) fun _ => [rootName] :=
  (charts_told src skipping (level_events src 0)).bind fun _ => charts_tellTally

end Walk

/-! ## Conversions -/

namespace Conversion

open Report

/-- What is written in front of a walk. -/
def prologue (src : Source) : Action Writer Unit := do
  Action.write Writer.startDocument
  Action.write (Writer.startElement rootName)
  discard <| Report.timeElement (← Report.ask src.lastModified id)

theorem body_eq (src : Source) (skipping : Bool) :
    body src skipping = (do prologue src; Walk.run src skipping (visitor src)) := by
  unfold body prologue
  simp only [bind_assoc]
  rfl

theorem charts_prologue (src : Source) :
    Charts rootName none [] (prologue src) fun _ => [rootName] := by
  refine (charts_write Writer.keeps_startDocument).bind fun _ => ?_
  refine (charts_startElement rootName).bind fun _ => ?_
  exact (charts_ask returns_none _ _).bind fun ticks => (steady_timeElement ticks).discard

/-- **Everything up to the end of the root's content.** -/
theorem charts_body (src : Source) (skipping : Bool) :
    Charts rootName none [] (body src skipping) fun _ => [rootName] := by
  rw [body_eq]
  exact (charts_prologue src).bind fun _ => Walk.charts_run src skipping

/-- The end of a document closes its root, and no other element. -/
theorem charts_finish {root : String} {retry : Option (List String)} (hroot : rootName ≠ root) :
    Charts root retry [rootName] finish fun _ => [] := by
  refine (charts_write (Writer.keeps_endElement hroot)).bind fun _ => ?_
  exact (charts_write Writer.keeps_endDocument).bind fun _ => charts_log _

end Conversion

end HiveDump
