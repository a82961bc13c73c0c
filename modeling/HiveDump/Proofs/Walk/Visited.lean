import HiveDump.Proofs.Walk.Callbacks

/-!
# Which nodes a walk visits

The calls of a walk show its nodes: those that are entered, in the order in which they are found,
and those that are left, each behind everything below it. The walk finds the handles that can be
reached, and takes each of them once.

Results:
* `after_of_spans`, **`nodup_entered`**: what was entered is what the calls enter, no handle twice;
* **`perm_left`**: what is entered is left;
* **`valuesAt_of_spans`**: the values told at a handle are those of the node entered there;
* **`mem_entered_iff`**: the handles entered are those that can be reached, if nodes with one handle
  have the same subkeys.
-/

namespace HiveDump

namespace Callback

/-- The node that a call enters. -/
def entered? : Callback → Option Node
  | enter n => some n
  | _ => none

/-- The node that a call leaves. -/
def left? : Callback → Option Node
  | leave n => some n
  | _ => none

/-- The value that a call tells of a node with this handle. -/
def valueAt? (handle : Int) : Callback → Option Value
  | value n v => if n.handle = handle then some v else none
  | _ => none

end Callback

namespace Walk

/-- The nodes that calls enter, in order. -/
def enteredNodes (calls : List Callback) : List Node :=
  calls.filterMap Callback.entered?

/-- The nodes that calls leave, in order. -/
def leftNodes (calls : List Callback) : List Node :=
  calls.filterMap Callback.left?

/-- The values that calls tell of nodes with this handle, in order. -/
def valuesAt (handle : Int) (calls : List Callback) : List Value :=
  calls.filterMap (Callback.valueAt? handle)

/-- The handles of nodes. -/
def handles (nodes : List Node) : List Int :=
  nodes.map (·.handle)

variable {src : Source} {before after : List Int} {rest : List Node} {calls : List Callback}

/-! ## Calls around a node -/

theorem filterMap_callsAround {α : Type} (f : Callback → Option α) (n : Node)
    (inside : List Callback) :
    (callsAround src n inside).filterMap f = (f (.enter n)).toList ++
      (Listing.good (src.values n)).filterMap (fun v => f (.value n v)) ++ inside.filterMap f ++
        (f (.leave n)).toList := by
  rw [callsAround, List.cons_append, List.cons_append, List.filterMap_cons, List.filterMap_append,
    List.filterMap_append, List.filterMap_map]
  cases f (.enter n) <;> cases hf : f (.leave n) <;> simp [hf, Function.comp_def]

theorem entered_callsAround (n : Node) (inside : List Callback) :
    enteredNodes (callsAround src n inside) = n :: enteredNodes inside := by
  simp [enteredNodes, filterMap_callsAround, Callback.entered?]

theorem left_callsAround (n : Node) (inside : List Callback) :
    leftNodes (callsAround src n inside) = leftNodes inside ++ [n] := by
  simp [leftNodes, filterMap_callsAround, Callback.left?]

/-- What is told at a handle, of a node and of those below it. -/
theorem valuesAt_callsAround (handle : Int) (n : Node) (inside : List Callback) :
    valuesAt handle (callsAround src n inside) =
      (if n.handle = handle then Listing.good (src.values n) else []) ++
        valuesAt handle inside := by
  by_cases h : n.handle = handle <;> simp [valuesAt, filterMap_callsAround, Callback.valueAt?, h]

theorem entered_append (calls calls' : List Callback) :
    enteredNodes (calls ++ calls') = enteredNodes calls ++ enteredNodes calls' :=
  List.filterMap_append

theorem left_append (calls calls' : List Callback) :
    leftNodes (calls ++ calls') = leftNodes calls ++ leftNodes calls' :=
  List.filterMap_append

theorem valuesAt_append (handle : Int) (calls calls' : List Callback) :
    valuesAt handle (calls ++ calls') = valuesAt handle calls ++ valuesAt handle calls' :=
  List.filterMap_append

/-! ## Each node once -/

/-- What was entered behind some subkeys is what the calls for them enter, the latest first. -/
theorem after_of_spans (h : Spans src before rest calls after) :
    after = (handles (enteredNodes calls)).reverse ++ before := by
  induction h with
  | nil => rfl
  | again _ _ ih => exact ih
  | fresh _ _ _ ihChild ihRest =>
    rw [entered_append, entered_callsAround, ihRest, ihChild]
    simp [handles]

/-- No handle is entered twice. -/
theorem nodup_after (h : Spans src before rest calls after) (hn : before.Nodup) : after.Nodup := by
  induction h with
  | nil => exact hn
  | again _ _ ih => exact ih hn
  | fresh hc _ _ ihChild ihRest => exact ihRest (ihChild (List.nodup_cons.mpr ⟨hc, hn⟩))

/-- What is entered is left. -/
theorem left_of_spans (h : Spans src before rest calls after) :
    (leftNodes calls).Perm (enteredNodes calls) := by
  induction h with
  | nil => exact .refl _
  | again _ _ ih => exact ih
  | fresh _ _ _ ihChild ihRest =>
    rw [left_append, entered_append, left_callsAround, entered_callsAround]
    exact (List.perm_append_singleton _ _ |>.trans (ihChild.cons _)).append ihRest

/-- The values told at a handle are those of the nodes that are entered there. -/
theorem valuesAt_of_spans (handle : Int) (h : Spans src before rest calls after) :
    valuesAt handle calls = (enteredNodes calls).flatMap fun n =>
      if n.handle = handle then Listing.good (src.values n) else [] := by
  induction h with
  | nil => rfl
  | again _ _ ih => exact ih
  | fresh _ _ _ ihChild ihRest =>
    rw [valuesAt_append, entered_append, valuesAt_callsAround, entered_callsAround, ihChild, ihRest,
      List.flatMap_append, List.flatMap_cons]

/-! ## A whole walk -/

/-- **No handle is entered twice** in a walk. -/
theorem nodup_entered (h : PlainWalk src calls) : (handles (enteredNodes calls)).Nodup := by
  obtain ⟨inside, after, hspans, rfl⟩ := h
  have hn := nodup_after hspans (List.nodup_cons.mpr ⟨by simp, List.nodup_nil⟩)
  rw [after_of_spans hspans, ← List.reverse_cons] at hn
  rw [entered_callsAround]
  exact (List.reverse_perm _).nodup hn

/-- **What is entered is left**, and nothing else. -/
theorem perm_left (h : PlainWalk src calls) : (leftNodes calls).Perm (enteredNodes calls) := by
  obtain ⟨inside, after, hspans, rfl⟩ := h
  rw [left_callsAround, entered_callsAround]
  exact (List.perm_append_singleton _ _).trans ((left_of_spans hspans).cons _)

/-- Of nodes with different handles one has a given handle. -/
theorem flatMap_at {α : Type} (f : Node → List α) {n : Node} :
    ∀ {nodes : List Node}, (handles nodes).Nodup → n ∈ nodes →
      (nodes.flatMap fun m => if m.handle = n.handle then f m else []) = f n
  | m :: nodes, hn, hm => by
    obtain ⟨hnew, hn⟩ := List.nodup_cons.mp hn
    rw [List.flatMap_cons]
    rcases List.mem_cons.mp hm with rfl | hm
    · have hother : ∀ m ∈ nodes, (if m.handle = n.handle then f m else []) = [] := by
        intro m hm
        have hne : m.handle ≠ n.handle := fun heq => hnew (List.mem_map.mpr ⟨m, hm, heq⟩)
        rw [if_neg hne]
      rw [if_pos rfl, List.flatMap_eq_nil_iff.mpr hother, List.append_nil]
    · have hne : m.handle ≠ n.handle := fun heq => hnew (List.mem_map.mpr ⟨n, hm, heq.symm⟩)
      rw [if_neg hne, List.nil_append]
      exact flatMap_at f hn hm

/-- **The values told at a handle** are those in the list of the node that is entered there. -/
theorem valuesAt_of_mem (h : PlainWalk src calls) {n : Node} (hn : n ∈ enteredNodes calls) :
    valuesAt n.handle calls = Listing.good (src.values n) := by
  have hall : valuesAt n.handle calls = (enteredNodes calls).flatMap fun m =>
      if m.handle = n.handle then Listing.good (src.values m) else [] := by
    obtain ⟨inside, after, hspans, rfl⟩ := h
    rw [valuesAt_callsAround, entered_callsAround, List.flatMap_cons,
      valuesAt_of_spans _ hspans]
  rw [hall, flatMap_at _ (nodup_entered h) hn]

/-! ## What is reached -/

theorem mem_entered_filterMap {evs : List Event} {n : Node} :
    n ∈ enteredNodes (evs.filterMap Event.callback?) ↔ .enter n ∈ evs := by
  simp only [enteredNodes, List.mem_filterMap]
  constructor
  · rintro ⟨call, ⟨ev, hev, hcall⟩, hn⟩
    cases ev <;> cases hcall <;> cases hn
    exact hev
  · exact fun hev => ⟨.enter n, ⟨.enter n, hev, rfl⟩, rfl⟩

theorem callback?_of_mem_entryEvents {α : Type} {list : EntryList} {n : Node} {e : Entry α}
    {ev : Event} (h : ev ∈ entryEvents list n e) : ev.callback? = none :=
  List.filterMap_eq_nil_iff.mp (filterMap_entryEvents list n e) ev h

theorem eq_of_metAt_enter {m n : Node} (h : MetAt src n (.enter m)) : m = n := by
  cases h with
  | enter => rfl
  | value _ hev =>
    rcases List.mem_append.mp hev with hev | hev
    · cases callback?_of_mem_entryEvents hev
    · obtain ⟨v, -, hv⟩ := Option.map_eq_some_iff.mp (Option.mem_toList.mp hev)
      cases hv
  | subkey _ hev => cases callback?_of_mem_entryEvents hev

/-- A value is met at the node whose list delivers it. -/
theorem mem_values_of_metAt {m n : Node} {v : Value} (h : MetAt src n (.value m v)) :
    v ∈ Listing.good (src.values n) := by
  cases h with
  | value he hev =>
    rcases List.mem_append.mp hev with hev | hev
    · cases callback?_of_mem_entryEvents hev
    · obtain ⟨w, hgood, hw⟩ := Option.map_eq_some_iff.mp (Option.mem_toList.mp hev)
      cases hw
      exact List.mem_filterMap.mpr ⟨_, he, hgood⟩
  | subkey _ hev => cases callback?_of_mem_entryEvents hev

/-- A node that is entered can be reached. -/
theorem reachable_of_mem_entered (h : PlainWalk src calls) {n : Node}
    (hn : n ∈ enteredNodes calls) : src.Reachable n := by
  have hrec := recursive_events src
  rw [(plainWalk_iff hrec calls).mp h] at hn
  obtain ⟨m, hm, hat⟩ := metAt_of_recursive hrec _ (mem_entered_filterMap.mp hn)
  exact eq_of_metAt_enter hat ▸ hm

/-- **The handles that a walk enters are those that can be reached**, if a node's subkeys are known
by its handle. -/
theorem mem_entered_iff (hkey : ∀ a b : Node, a.handle = b.handle →
    src.children a = src.children b) (h : PlainWalk src calls) (handle : Int) :
    handle ∈ handles (enteredNodes calls) ↔ ∃ n, src.Reachable n ∧ n.handle = handle := by
  constructor
  · intro hm
    obtain ⟨n, hn, rfl⟩ := List.mem_map.mp hm
    exact ⟨n, reachable_of_mem_entered h hn, rfl⟩
  · rintro ⟨n, hn, rfl⟩
    have hrec := recursive_events src
    obtain ⟨after, hcovers⟩ := covers_of_reachable hkey hrec
    obtain ⟨m, -, hm, henter, -⟩ := hcovers n hn
    rw [(plainWalk_iff hrec calls).mp h, ← hm]
    exact List.mem_map_of_mem (mem_entered_filterMap.mpr (henter _ List.mem_cons_self))

end Walk

end HiveDump
