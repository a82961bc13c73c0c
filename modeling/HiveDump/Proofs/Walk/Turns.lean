import HiveDump.Proofs.Walk.Tallied
import HiveDump.Proofs.Walk.Visited
import HiveDump.Walk.Turn

/-!
# A walk comes to its end

A walk as a loop may come back to a node as often as lists name it. That it ends nevertheless is
seen from what it has left to do (`turnsLeft`): a turn takes up one of the entries left, and only a
node that was not entered before brings new ones. Of those there are no more than the source has
handles for.

Results:
* **`run_endsWithin`**: the loop ends with what `Walk.run` gives, within a number of turns that is
  bounded by the handles of the source and the longest lists of a node;
* **`nodup_fired`**: no run enters a handle twice, whichever way it ends.
-/

namespace HiveDump.Walk

open HiveDump.Action
open Loop (EndsWithin)

variable {δ : Type} {src : Source} {v : Visitor δ} {skipping : Bool}

/-! ## What a turn does -/

/-- What is met in one turn, and what is left to do behind it. -/
inductive Advances (src : Source) : Underway → List Event → Underway → Prop
  | enter {entered n tasks} :
      Advances src ⟨entered, .enter n :: tasks⟩ [.enter n]
        ⟨entered, .values n (Listing.entries (src.values n)) ::
          .subkeys n (Listing.entries (src.children n)) :: tasks⟩
  | told {entered n tasks} :
      Advances src ⟨entered, .values n [] :: tasks⟩ [] ⟨entered, tasks⟩
  | value {entered n e rest tasks} :
      Advances src ⟨entered, .values n (e :: rest) :: tasks⟩ (valueEntryEvents n e)
        ⟨entered, .values n rest :: tasks⟩
  | leave {entered n tasks} :
      Advances src ⟨entered, .subkeys n [] :: tasks⟩ [.leave n] ⟨entered, tasks⟩
  | bad {entered n e rest tasks} (he : e.good? = none) :
      Advances src ⟨entered, .subkeys n (e :: rest) :: tasks⟩ (entryEvents .subkeys n e)
        ⟨entered, .subkeys n rest :: tasks⟩
  | again {entered n e child rest tasks} (he : e.good? = some child)
      (hc : child.handle ∈ entered) :
      Advances src ⟨entered, .subkeys n (e :: rest) :: tasks⟩
        (entryEvents .subkeys n e ++ [.malformed (.revisited child.handle n.handle) .subkeys n])
        ⟨entered, .subkeys n rest :: tasks⟩
  | fresh {entered n e child rest tasks} (he : e.good? = some child)
      (hc : child.handle ∉ entered) :
      Advances src ⟨entered, .subkeys n (e :: rest) :: tasks⟩ (entryEvents .subkeys n e)
        ⟨child.handle :: entered, .enter child :: .subkeys n rest :: tasks⟩

theorem advances_of_next {w w' : Underway} {met : List Event}
    (h : next src w = some (met, w')) : Advances src w met w' := by
  obtain ⟨entered, tasks⟩ := w
  cases tasks with
  | nil => cases h
  | cons task tasks =>
    cases task with
    | enter n => cases h; exact .enter
    | values n rest =>
      cases rest with
      | nil => cases h; exact .told
      | cons e rest => cases h; exact .value
    | subkeys n rest =>
      cases rest with
      | nil => cases h; exact .leave
      | cons e rest =>
        cases he : e.good? with
        | none =>
          simp only [next, he] at h
          cases h
          exact .bad he
        | some child =>
          by_cases hc : child.handle ∈ entered
          · simp only [next, he, if_pos hc] at h
            cases h
            exact .again he hc
          · simp only [next, he, if_neg hc] at h
            cases h
            exact .fresh he hc

theorem tasks_of_next {w : Underway} (h : next src w = none) : w.tasks = [] := by
  obtain ⟨entered, tasks⟩ := w
  cases tasks with
  | nil => rfl
  | cons task tasks =>
    cases task with
    | enter n => cases h
    | values n rest => cases rest <;> cases h
    | subkeys n rest =>
      cases rest with
      | nil => cases h
      | cons e rest =>
        simp only [next] at h
        split at h
        · cases h
        · split at h <;> cases h

/-! ## What is still met -/

/-- What a walk under way still meets. -/
inductive Remains (src : Source) : (entered : List Int) → List Task → List Event → Prop
  | nil {entered} : Remains src entered [] []
  | enter {entered n tasks inside between behind}
      (hin : Inside src entered n (Listing.entries (src.children n)) inside between)
      (htasks : Remains src between tasks behind) :
      Remains src entered (.enter n :: tasks) (around src n inside ++ behind)
  | values {entered n rest tasks behind} (htasks : Remains src entered tasks behind) :
      Remains src entered (.values n rest :: tasks)
        (rest.flatMap (valueEntryEvents n) ++ behind)
  | subkeys {entered n rest tasks inside between behind}
      (hin : Inside src entered n rest inside between)
      (htasks : Remains src between tasks behind) :
      Remains src entered (.subkeys n rest :: tasks) (inside ++ .leave n :: behind)

theorem remains_start (src : Source) :
    Remains src (start src).entered (start src).tasks (events src) := by
  obtain ⟨inside, after, hin, hevs⟩ := recursive_events src
  have h : Remains src (start src).entered (start src).tasks (around src src.root inside ++ []) :=
    .enter hin .nil
  rwa [List.append_nil, ← hevs] at h

theorem valueEvents_eq (src : Source) (n : Node) :
    valueEvents src n = (Listing.entries (src.values n)).flatMap (valueEntryEvents n) :=
  rfl

/-- What is met in a turn is the first part of what was still to be met. -/
theorem Remains.next {w w' : Underway} {met evs : List Event}
    (h : Remains src w.entered w.tasks evs) (ha : Advances src w met w') :
    ∃ behind, evs = met ++ behind ∧ Remains src w'.entered w'.tasks behind := by
  cases ha with
  | enter =>
    cases h with
    | enter hin htasks =>
      refine ⟨_, ?_, .values (.subkeys hin htasks)⟩
      simp only [around, enterEvents, valueEvents_eq, List.cons_append, List.nil_append,
        List.append_assoc]
  | told =>
    cases h with
    | values htasks => exact ⟨_, rfl, htasks⟩
  | value =>
    cases h with
    | values htasks =>
      refine ⟨_, ?_, .values htasks⟩
      rw [List.flatMap_cons, List.append_assoc]
  | leave =>
    cases h with
    | subkeys hin htasks =>
      cases hin
      exact ⟨_, rfl, htasks⟩
  | bad he =>
    cases h with
    | subkeys hin htasks =>
      cases hin with
      | bad _ hrest => exact ⟨_, List.append_assoc _ _ _, .subkeys hrest htasks⟩
      | again he' => rw [he] at he'; cases he'
      | fresh he' => rw [he] at he'; cases he'
  | again he hc =>
    cases h with
    | subkeys hin htasks =>
      cases hin with
      | bad he' => rw [he] at he'; cases he'
      | again he' _ hrest =>
        rw [he] at he'
        cases he'
        refine ⟨_, ?_, .subkeys hrest htasks⟩
        simp only [List.append_assoc, List.cons_append, List.nil_append]
      | fresh he' hc' => rw [he] at he'; cases he'; exact absurd hc hc'
  | fresh he hc =>
    cases h with
    | subkeys hin htasks =>
      cases hin with
      | bad he' => rw [he] at he'; cases he'
      | again he' hc' => rw [he] at he'; cases he'; exact absurd hc' hc
      | fresh he' _ hchild hrest =>
        rw [he] at he'
        cases he'
        refine ⟨_, ?_, .enter hchild (.subkeys hrest htasks)⟩
        simp only [List.append_assoc]

/-! ## What is left to do -/

/-- How many turns a task takes, apart from those for the nodes that it makes the walk enter. -/
def Task.turns (src : Source) : Task → Nat
  | enter n => (Listing.entries (src.values n)).length +
      (Listing.entries (src.children n)).length + 3
  | values _ rest => rest.length + 1
  | subkeys _ rest => rest.length + 1

/-- How many turns some tasks take, apart from those for other nodes. -/
def tasksTurns (src : Source) : List Task → Nat
  | [] => 0
  | task :: tasks => task.turns src + tasksTurns src tasks

/-- How many turns are left at most, if entering a node takes no more than `each`. -/
def turnsLeft (src : Source) (each : Nat) (w : Underway) : Nat :=
  tasksTurns src w.tasks + (src.capacity + 1 - w.entered.length) * each

/-- Whether a task is one that a walk of the source can have. -/
def Task.Arises (src : Source) : Task → Prop
  | enter n => src.Reachable n
  | values _ _ => True
  | subkeys _ rest => Names src rest

/-- Whether a walk of the source can have come this far. -/
structure Arises (src : Source) (w : Underway) : Prop where
  fits : Fits src (src.capacity + 1 - w.entered.length) w.entered
  tasks : ∀ task ∈ w.tasks, task.Arises src

theorem arises_start (src : Source) : Arises src (start src) where
  fits := fits_root
  tasks := List.forall_mem_singleton.mpr .root

section Less

variable {entered : List Int} {task task' : Task} {tasks : List Task} {each : Nat}

/-- A task that takes turns is left behind. -/
theorem Arises.drop (h : Arises src ⟨entered, task :: tasks⟩) (hpos : 0 < task.turns src) :
    Arises src ⟨entered, tasks⟩ ∧
      turnsLeft src each ⟨entered, tasks⟩ < turnsLeft src each ⟨entered, task :: tasks⟩ := by
  refine ⟨⟨h.fits, (List.forall_mem_cons.mp h.tasks).2⟩, ?_⟩
  simp only [turnsLeft, tasksTurns]
  omega

/-- A task is taken up, and a shorter one is left of it. -/
theorem Arises.shorten (h : Arises src ⟨entered, task :: tasks⟩) (ht : task'.Arises src)
    (hlt : task'.turns src < task.turns src) :
    Arises src ⟨entered, task' :: tasks⟩ ∧
      turnsLeft src each ⟨entered, task' :: tasks⟩ <
        turnsLeft src each ⟨entered, task :: tasks⟩ := by
  refine ⟨⟨h.fits, List.forall_mem_cons.mpr ⟨ht, (List.forall_mem_cons.mp h.tasks).2⟩⟩, ?_⟩
  simp only [turnsLeft, tasksTurns]
  omega

end Less

/-- A turn leaves less to do. -/
theorem Arises.next {w w' : Underway} {met : List Event} {each : Nat}
    (heach : ∀ n, src.Reachable n → (Task.enter n).turns src ≤ each) (h : Arises src w)
    (ha : Advances src w met w') :
    Arises src w' ∧ turnsLeft src each w' < turnsLeft src each w := by
  cases ha with
  | enter =>
    obtain ⟨hn, htasks⟩ := List.forall_mem_cons.mp h.tasks
    refine ⟨⟨h.fits, List.forall_mem_cons.mpr ⟨trivial, List.forall_mem_cons.mpr
      ⟨names_entries hn, htasks⟩⟩⟩, ?_⟩
    simp only [turnsLeft, tasksTurns, Task.turns]
    omega
  | told => exact h.drop (Nat.succ_pos _)
  | value => exact h.shorten trivial (Nat.lt_succ_self _)
  | leave => exact h.drop (Nat.succ_pos _)
  | bad | again =>
    have hrest := (List.forall_mem_cons.mp h.tasks).1
    exact h.shorten (List.forall_mem_cons.mp hrest).2 (Nat.lt_succ_self _)
  | @fresh entered n e child rest tasks he hc =>
    obtain ⟨hfits, htasks⟩ := h
    obtain ⟨hrest, htasks⟩ := List.forall_mem_cons.mp htasks
    obtain ⟨hfirst, hrest⟩ := List.forall_mem_cons.mp hrest
    have hlisted : Listed src child := hfirst child he
    have hpos := fits_pos hfits hc hlisted
    obtain ⟨budget, hbudget⟩ : ∃ b, src.capacity + 1 - entered.length = b + 1 :=
      ⟨src.capacity - entered.length, by simp only at hpos; omega⟩
    have hbehind : src.capacity + 1 - (child.handle :: entered).length = budget := by
      rw [List.length_cons]
      omega
    simp only [hbudget] at hfits
    have hle := heach child hlisted.reachable
    refine ⟨⟨by simpa only [hbehind] using fits_enter hfits hc hlisted,
      List.forall_mem_cons.mpr ⟨hlisted.reachable, List.forall_mem_cons.mpr ⟨hrest, htasks⟩⟩⟩, ?_⟩
    simp only [turnsLeft, tasksTurns, hbudget, hbehind, Nat.succ_mul]
    simp only [Task.turns, List.length_cons] at hle ⊢
    omega

theorem turnsLeft_start {each : Nat}
    (heach : ∀ n, src.Reachable n → (Task.enter n).turns src ≤ each) :
    turnsLeft src each (start src) ≤ (src.capacity + 1) * each := by
  have hle := heach src.root .root
  simp only [turnsLeft, tasksTurns, start, List.length_singleton, Nat.add_sub_cancel, Nat.succ_mul]
  omega

/-! ## The loop -/

theorem of_turn_inl {w : Underway × Session δ} {w' : Underway × Session δ}
    (h : turn src skipping v w = .inl w') :
    ∃ met, next src w.1 = some (met, w'.1) ∧
      perform (met.forM (step skipping v)) w.2 = (.ok ⟨⟩, w'.2) := by
  obtain ⟨w, s⟩ := w
  rw [turn] at h
  cases hnext : next src w with
  | none => rw [hnext] at h; cases h
  | some found =>
    obtain ⟨met, w₁⟩ := found
    simp only [hnext] at h
    rcases hmet : perform (met.forM (step skipping v)) s with ⟨fault | ⟨⟩, t⟩
    · rw [hmet] at h
      cases h
    · rw [hmet] at h
      cases h
      exact ⟨met, rfl, hmet⟩

theorem of_turn_inr {w : Underway × Session δ} {last : Except Fault Tally × Session δ}
    (h : turn src skipping v w = .inr last) :
    (next src w.1 = none ∧ last = perform conclude w.2) ∨
      ∃ met w' fault t, next src w.1 = some (met, w') ∧
        perform (met.forM (step skipping v)) w.2 = (.error fault, t) ∧
        last = (.error fault, t) := by
  obtain ⟨w, s⟩ := w
  rw [turn] at h
  cases hnext : next src w with
  | none =>
    rw [hnext] at h
    cases h
    exact .inl ⟨rfl, rfl⟩
  | some found =>
    obtain ⟨met, w₁⟩ := found
    simp only [hnext] at h
    rcases hmet : perform (met.forM (step skipping v)) s with ⟨fault | ⟨⟩, t⟩
    · rw [hmet] at h
      cases h
      exact .inr ⟨met, w₁, fault, t, rfl, hmet, rfl⟩
    · rw [hmet] at h
      cases h

/-- A run goes over what is met, and concludes. -/
theorem run_eq (src : Source) (skipping : Bool) (v : Visitor δ) :
    run src skipping v = ((events src).forM (step skipping v) >>= fun _ => conclude) :=
  rfl

/-- **A walk ends** with what a run gives, in a number of turns that the handles of the source and
the longest lists of a node bound. -/
theorem run_endsWithin {each : Nat}
    (heach : ∀ n, src.Reachable n → (Task.enter n).turns src ≤ each) (skipping : Bool)
    (v : Visitor δ) (s : Session δ) :
    EndsWithin (turn src skipping v) (start src, s) ((src.capacity + 1) * each + 1)
      (perform (run src skipping v) s) := by
  -- What a turn leaves to be met is gone over in the session behind it.
  refine (Loop.endsWithin_of_variant
    (P := fun w r => Arises src w.1 ∧ ∃ evs, Remains src w.1.entered w.1.tasks evs ∧
      r = perform (evs.forM (step skipping v) >>= fun _ => conclude) w.2)
    (fun w => turnsLeft src each w.1) ?_ ?_
    ⟨arises_start src, _, remains_start src, rfl⟩).mono (Nat.succ_le_succ (turnsLeft_start heach))
  · rintro w w' r ⟨harises, evs, hremains, rfl⟩ hturn
    obtain ⟨met, hnext, hmet⟩ := of_turn_inl hturn
    have ha := advances_of_next hnext
    obtain ⟨harises', hlt⟩ := harises.next heach ha
    obtain ⟨behind, rfl, hbehind⟩ := hremains.next ha
    refine ⟨⟨harises', behind, hbehind, ?_⟩, hlt⟩
    rw [perform_bind, perform_forM_append, hmet, perform_bind]
  · rintro w r last ⟨-, evs, hremains, rfl⟩ hturn
    rcases of_turn_inr hturn with ⟨hnext, rfl⟩ | ⟨met, w', fault, t, hnext, hmet, rfl⟩
    · rw [tasks_of_next hnext] at hremains
      cases hremains
      rfl
    · obtain ⟨behind, rfl, -⟩ := hremains.next (advances_of_next hnext)
      rw [perform_bind, perform_forM_append, hmet]

/-! ## Each handle once -/

theorem prefix_dealt (act : Event → Action δ Unit) (evs : List Event) (s : Session δ) :
    dealt act evs s <+: evs := by
  induction evs generalizing s with
  | nil => exact List.prefix_rfl
  | cons ev evs ih =>
    rw [dealt]
    refine List.prefix_cons_inj ev |>.mpr ?_
    rcases perform (act ev) s with ⟨fault | ⟨⟩, t⟩
    · exact List.nil_prefix
    · exact ih t

/-- The nodes that a run enters are the first of those that a whole walk enters. -/
theorem prefix_entered_fired (src : Source) (skipping : Bool) (v : Visitor δ) (s : Session δ) :
    enteredNodes (fired src skipping v s) <+:
      enteredNodes ((events src).filterMap Event.callback?) := by
  rw [fired_eq]
  exact ((prefix_dealt _ _ s).filterMap _).filterMap _

/-- **No run enters a handle twice**, whichever way it ends. -/
theorem nodup_fired (src : Source) (skipping : Bool) (v : Visitor δ) (s : Session δ) :
    (handles (enteredNodes (fired src skipping v s))).Nodup :=
  (nodup_entered (plainWalk_events src)).sublist
    ((prefix_entered_fired src skipping v s).sublist.map _)

theorem reachable_of_fired {s : Session δ} {n : Node}
    (hn : n ∈ enteredNodes (fired src skipping v s)) : src.Reachable n :=
  reachable_of_mem_entered (plainWalk_events src)
    ((prefix_entered_fired src skipping v s).subset hn)

end HiveDump.Walk
