import HiveDump.Proofs.Walk.Visited

/-!
# Walks through hives in memory

A hive in memory is a graph of keys by their handles: keys may be listed several times and below
themselves, lists may hold bad entries or be unreadable, and a list that does not go on behind a bad
entry ends there. `MemoryHive.Connected` says which keys hang together with the root, by the lists
as they were built and without a walk.

A walk that skips what is malformed enters and leaves each of these keys once and tells every value
that their lists deliver once. Loops do not keep it from ending, and bad entries hide nothing but
what stands behind them in a list that does not go on.

Results:
* `good_children`, `good_values`: what can be read of the lists is what they deliver;
* **`reachable_iff_connected`**: what a walk can come to is what hangs together with the root;
* **`skipping_visits_connected`**: what a skipping walk does.
-/

namespace HiveDump.MemoryHive

open Walk

variable {h : MemoryHive}

/-! ## What hangs together -/

/-- What a list delivers: its good entries, or those in front of its first bad one. -/
def delivered {α : Type} (resumable : Bool) (slots : List (Slot α)) : List α :=
  (if resumable then slots else slots.takeWhile fun s => s.good?.isSome).filterMap Slot.good?

/-- The subkeys that the list of a key delivers; an unreadable list delivers none. -/
def subkeysOf (h : MemoryHive) (handle : Int) : List Node :=
  if handle ∈ h.unreadableLists then []
  else ((h.keys.get? handle).map fun k => delivered h.resumable k.children).getD []

/-- The values that the list of a key delivers. -/
def valuesOf (h : MemoryHive) (handle : Int) : List Value :=
  ((h.keys.get? handle).map fun k => delivered h.resumable k.values).getD []

/-- The keys that hang together with the root, by their handles. -/
inductive Connected (h : MemoryHive) : Int → Prop
  | root : Connected h h.root.handle
  | subkey {handle : Int} {c : Node} (hh : Connected h handle) (hc : c ∈ h.subkeysOf handle) :
    Connected h c.handle

/-! ## Lists as sources show them -/

theorem good_met {α : Type} (resumable : Bool) (slots : List (Slot α)) :
    Listing.good (.ok (met resumable slots)) = delivered resumable slots := by
  change (met resumable slots).filterMap Entry.good? = _
  unfold delivered
  induction slots with
  | nil => cases resumable <;> rfl
  | cons slot slots ih =>
    cases slot with
    | good a =>
      rw [met, List.filterMap_cons, ih]
      cases resumable <;> simp [Entry.good?, Slot.good?]
    | bad message handle =>
      cases resumable with
      | true => exact ih
      | false => simp [met, Entry.good?, Slot.good?]

theorem good_children (n : Node) : Listing.good (h.source.children n) = h.subkeysOf n.handle := by
  change Listing.good (h.children n) = _
  unfold children subkeysOf
  split
  · rfl
  · cases h.keys.get? n.handle with
    | none => rfl
    | some record => exact good_met _ _

theorem good_values (n : Node) : Listing.good (h.source.values n) = h.valuesOf n.handle := by
  change Listing.good (h.valueList n) = _
  unfold valueList valuesOf
  cases h.keys.get? n.handle with
  | none => rfl
  | some record => exact good_met _ _

theorem children_congr_handle {a b : Node} (hab : a.handle = b.handle) :
    h.source.children a = h.source.children b := by
  change h.children a = h.children b
  unfold children
  rw [hab]

/-- **What a walk can come to** is what hangs together with the root. -/
theorem reachable_iff_connected (handle : Int) :
    (∃ n, h.source.Reachable n ∧ n.handle = handle) ↔ h.Connected handle := by
  constructor
  · rintro ⟨n, hn, rfl⟩
    induction hn with
    | root => exact .root
    | child _ hc ih =>
      rw [good_children] at hc
      exact .subkey ih hc
  · intro hc
    induction hc with
    | root => exact ⟨h.root, .root, rfl⟩
    | @subkey _ c _ hc ih =>
      obtain ⟨n, hn, rfl⟩ := ih
      rw [← good_children] at hc
      exact ⟨c, .child hn hc, rfl⟩

/-! ## Skipping walks -/

/-- Whether calls visit what hangs together with the root, and each part of it once. -/
structure VisitsConnected (h : MemoryHive) (calls : List Callback) : Prop where
  entered : ∀ handle, handle ∈ handles (enteredNodes calls) ↔ h.Connected handle
  enteredOnce : (handles (enteredNodes calls)).Nodup
  left : ∀ handle, handle ∈ handles (leftNodes calls) ↔ h.Connected handle
  leftOnce : (handles (leftNodes calls)).Nodup
  /-- The values that a key's list delivers are told in order, each of them once. -/
  values : ∀ handle, h.Connected handle → valuesAt handle calls = h.valuesOf handle

theorem visitsConnected_of_plainWalk {calls : List Callback} (hw : PlainWalk h.source calls) :
    h.VisitsConnected calls := by
  have hentered : ∀ handle, handle ∈ handles (enteredNodes calls) ↔ h.Connected handle :=
    fun handle => (mem_entered_iff (fun _ _ => children_congr_handle) hw handle).trans
      (reachable_iff_connected handle)
  have hperm : (handles (leftNodes calls)).Perm (handles (enteredNodes calls)) :=
    (perm_left hw).map _
  refine ⟨hentered, nodup_entered hw, fun handle => ?_, hperm.symm.nodup (nodup_entered hw),
    fun handle hc => ?_⟩
  · rw [hperm.mem_iff]
    exact hentered handle
  · obtain ⟨n, hn, rfl⟩ := List.mem_map.mp ((hentered handle).mpr hc)
    rw [valuesAt_of_mem hw hn, good_values]

/-- **A walk that skips what is malformed ends**, and visits each key that hangs together with the
root once, with each value that its list delivers. For every hive whose listed keys have records;
every scripted hive is such a hive. -/
theorem skipping_visits_connected :
    (∀ (h : MemoryHive), h.Closed → ∀ {δ : Type} (v : Visitor δ) (s : Session δ),
      v.Calm → s.policy.NeverRaises →
        (∃ tally, ((run h.source true v).perform s).1 = .ok tally) ∧
          h.VisitsConnected (fired h.source true v s)) ∧
    ∀ (root : NewKey) (lastModified : Option Int) (resumable : Bool) (steps : List Step),
      (build (create root lastModified resumable) steps).hive.Closed := by
  refine ⟨fun h hc δ v s hv hp => ?_,
    fun root lastModified resumable steps => closed_build (closed_create _ _ _) steps⟩
  obtain ⟨hended, hfired⟩ := (firesAs_events (onlyMalformed_of_closed hc) hv hp).skipping
  refine ⟨hended, visitsConnected_of_plainWalk ?_⟩
  exact (plainWalk_iff (recursive_events h.source) _).mpr hfired

/-- The hive of two keys below each other, whose lists end at bad entries: what stands behind these
does not hang together with the root. -/
theorem skipping_visits_connected_tangled :
    tangled.Closed ∧ silent.Calm ∧ Policy.standard.NeverRaises ∧
      (∃ tally, ((run tangled.source true silent).perform
        ⟨(), Policy.standard, {}, #[]⟩).1 = .ok tally) ∧
      tangled.VisitsConnected
        (fired tangled.source true silent ⟨(), Policy.standard, {}, #[]⟩) := by
  have hc : tangled.Closed := skipping_visits_connected.2 _ none false tangledScript
  exact ⟨hc, calm_silent, Policy.neverRaises_standard,
    skipping_visits_connected.1 tangled hc silent _ calm_silent Policy.neverRaises_standard⟩

end HiveDump.MemoryHive
