import HiveDump.Proofs.Memory.Closed
import HiveDump.Proofs.Report.Thinned

/-!
# Hives in memory with losses

Handles that are not recognised and data cells that are lost may be put into a hive in memory. They
change no list, so a walk meets what it met before; they only change how questions about the nodes
and values concerned are answered. The faults of these answers are `Losses.given`.

Results:
* `length_given`: how many they are;
* `events_losing`: a walk meets the same;
* **`nodeLeft_losing`**, **`valueLeft_losing`**: what a report shows of nodes and values, and the
  faults that it submits;
* **`recorded_build`**: in a hive that a script has built every value of a list has a record.
-/

namespace HiveDump

open Report

/-- The faults that losses add to a report for something that a walk meets. -/
def Losses.given (losses : Losses) : Event → List Policy.Submission
  | .enter n =>
    if n.handle ∈ losses.handles then
      [⟨.unknownNode n.handle, "node_timestamp", .node n⟩,
        ⟨.notANode n.handle (.unknownNode n.handle), "node_byte_runs", .node n⟩]
    else []
  | .value _ v =>
    if v.handle ∈ losses.handles then
      [⟨.notAValue v.handle (.unknownValue v.handle), "value_byte_runs", .value v⟩]
    else if v.handle ∈ losses.cells then
      [⟨.lostDataCell v.handle, "value_byte_runs", .value v⟩]
    else []
  | _ => []

/-- The node that is entered is not recognised. -/
def Losses.hitsNode (losses : Losses) : Event → Bool
  | .enter n => n.handle ∈ losses.handles
  | _ => false

/-- The value that is met is not recognised, or its data cell is lost. -/
def Losses.hitsValue (losses : Losses) : Event → Bool
  | .value _ v => v.handle ∈ losses.handles ∨ v.handle ∈ losses.cells
  | _ => false

/-- **Two faults for a node, and one for a value.** -/
theorem Losses.length_given (losses : Losses) (evs : List Event) :
    (evs.flatMap losses.given).length =
      2 * evs.countP losses.hitsNode + evs.countP losses.hitsValue := by
  induction evs with
  | nil => rfl
  | cons ev evs ih =>
    rw [List.flatMap_cons, List.length_append, ih, List.countP_cons, List.countP_cons]
    have hone : (losses.given ev).length =
        2 * (if losses.hitsNode ev = true then 1 else 0) +
          if losses.hitsValue ev = true then 1 else 0 := by
      cases ev with
      | enter n => by_cases hn : n.handle ∈ losses.handles <;> simp [given, hitsNode, hitsValue, hn]
      | value n v =>
        by_cases hv : v.handle ∈ losses.handles <;> by_cases hc : v.handle ∈ losses.cells <;>
          simp [given, hitsNode, hitsValue, hv, hc]
      | _ => rfl
    omega

theorem Losses.given_nothing (evs : List Event) : evs.flatMap ({} : Losses).given = [] := by
  refine List.flatMap_eq_nil_iff.mpr fun ev _ => ?_
  cases ev <;> simp [given]

/-- Whether a policy may answer with this time stamp for a node that is not recognised. -/
def Policy.Stamps (p : Policy) (handle : Int) (time : Option Int) : Prop :=
  ∃ n : Node, n.handle = handle ∧
    p.Answers ⟨.unknownNode handle, "node_timestamp", .node n⟩ time

theorem Policy.Stamps.of_after {p : Policy} {given : List Policy.Submission} {handle : Int}
    {time : Option Int} (h : (p.after given).Stamps handle time) : p.Stamps handle time := by
  obtain ⟨n, hn, hanswers⟩ := h
  exact ⟨n, hn, hanswers.of_after⟩

/-! ## Sources with the same lists -/

namespace Walk

variable {src src' : Source}

theorem enterEvents_congr (hvalues : src'.values = src.values) (n : Node) :
    enterEvents src' n = enterEvents src n := by
  rw [enterEvents, valueEvents, hvalues, enterEvents, valueEvents]

theorem descend_congr (hchildren : src'.children = src.children)
    (hvalues : src'.values = src.values) (budget : Nat) (visited : Visited) (frames : List Frame)
    (met : Array Event) :
    descend src' budget visited frames met = descend src budget visited frames met := by
  have hframe (n : Node) : Frame.of src' n = Frame.of src n := by
    rw [Frame.of, hchildren, Frame.of]
  induction budget generalizing visited frames met with
  | zero => rfl
  | succ budget ih =>
    rw [descend, descend]
    rcases nextNode visited frames met with ⟨met, _ | ⟨child, frames⟩⟩
    · rfl
    · dsimp only
      rw [enterEvents_congr hvalues, hframe, ih]

/-- A walk depends on nothing but the root and the lists. -/
theorem events_congr (hroot : src'.root = src.root) (hcapacity : src'.capacity = src.capacity)
    (hchildren : src'.children = src.children) (hvalues : src'.values = src.values) :
    events src' = events src := by
  rw [events, descend_congr hchildren hvalues, enterEvents_congr hvalues, hroot, hcapacity,
    Frame.of, hchildren]
  rfl

end Walk

/-! ## Losses in a hive -/

namespace MemoryHive

/-- The hive with these handles not recognised and these data cells lost, and no others. -/
def losing (h : MemoryHive) (losses : Losses) : MemoryHive :=
  { h with invalidHandles := losses.handles, lostDataCells := losses.cells }

/-- Whether every handle of a hive is recognised and no data cell is lost. -/
structure Intact (h : MemoryHive) : Prop where
  handles : h.invalidHandles = []
  cells : h.lostDataCells = []
  faults : ∀ handle, h.dataCellFaults.get? handle = none

/-- Whether every value that a list names has a record. -/
def Recorded (h : MemoryHive) : Prop :=
  ∀ handle record, h.keys.get? handle = some record →
    ∀ v ∈ record.values.filterMap Slot.good?, ∃ found, h.values.get? v.handle = some found

variable {h : MemoryHive} {losses : Losses}

theorem losing_nothing (hi : h.Intact) : h.losing {} = h := by
  obtain ⟨handles, cells, -⟩ := hi
  cases h
  cases handles
  cases cells
  rfl

/-- A walk meets the same. -/
theorem events_losing (h : MemoryHive) (losses : Losses) :
    Walk.events (h.losing losses).source = Walk.events h.source :=
  Walk.events_congr rfl rfl rfl rfl

/-! ## What a report shows -/

theorem eq_of_key_eq_error {n : Node} {fault : Fault} (hf : h.key n = .error fault) :
    fault = .unknownNode n.handle := by
  unfold key at hf
  split at hf
  · exact (Except.error.inj hf).symm
  · split at hf
    · cases hf
    · exact (Except.error.inj hf).symm

theorem survives_timestamp (h : MemoryHive) (n : Node) : Survives (h.source.timestamp n) := by
  intro fault hf
  rw [eq_of_key_eq_error (Failing.map_eq_error.mp hf)]
  rfl

theorem survives_nodeRuns (h : MemoryHive) (n : Node) : Survives (nodeRuns h.source n) := by
  intro fault hf
  unfold nodeRuns at hf
  split at hf
  · cases hf
  next other hlength =>
    rw [eq_of_key_eq_error (Failing.map_eq_error.mp hlength)] at hf
    cases hf
    rfl

/-- **What is shown of a node**, and what is submitted. The policy is asked for the time of a node
that is not recognised. -/
theorem nodeLeft_losing {n : Node} {record : KeyRecord} (hkey : h.keys.get? n.handle = some record)
    (losses : Losses) (p : Policy) :
    nodeGiven (h.losing losses).source n =
        (nodeMarks h.source n).1 ++ losses.given (.enter n) ∧
      ∃ time, p.Stamps n.handle time ∧
        nodeFront p (h.losing losses).source n = if n.handle ∈ losses.handles then timeShown time
          else timeShown record.timestamp ++ [runsTree [(n.handle, record.length)]] := by
  have hanswer : (h.losing losses).key n = if n.handle ∈ losses.handles then
      .error (.unknownNode n.handle) else .ok record := by
    unfold key losing
    rw [hkey]
  have hmarks : nodeMarks (h.losing losses).source n = nodeMarks h.source n := rfl
  have hstamp : (h.losing losses).source.timestamp n =
      ((h.losing losses).key n).map (·.timestamp) := rfl
  have hlength : (h.losing losses).source.nodeLength n =
      ((h.losing losses).key n).map (·.length) := rfl
  rw [nodeGiven, stampGiven, nodeFront, stampUnder, nodeRunsLeft, nodeRuns, hmarks, hstamp, hlength,
    hanswer, Losses.given]
  by_cases hn : n.handle ∈ losses.handles
  · simp only [if_pos hn]
    exact ⟨rfl, _, ⟨n, rfl, (nodeMarks h.source n).1, rfl⟩, List.append_nil _⟩
  · simp only [if_neg hn]
    exact ⟨rfl, _, ⟨n, rfl, p.answers_time _⟩, rfl⟩

/-- **What is shown of a value's place**, and what is submitted. -/
theorem valueLeft_losing {v : Value} {record : ValueRecord}
    (hvalue : h.values.get? v.handle = some record) (hcell : h.dataCellFaults.get? v.handle = none)
    (n : Node) :
    ∃ more, ∀ losses : Losses, Survives (valueRuns (h.losing losses).source v) ∧
      valueRunsLeft (h.losing losses).source v = (losses.given (.value n v),
        if v.handle ∈ losses.handles ∨ v.handle ∈ losses.cells then []
        else [runsTree ((v.handle, record.length) :: more)]) := by
  refine ⟨if inlineLimit < record.dataCell.2 then [record.dataCell] else [], fun losses => ?_⟩
  have hanswer : (h.losing losses).valueRecord v = if v.handle ∈ losses.handles then
      .error (.unknownValue v.handle) else .ok record := by
    unfold valueRecord losing
    rw [hvalue]
  have hplace : (h.losing losses).source.dataCell v = (do
      let record ← (h.losing losses).valueRecord v
      if v.handle ∈ losses.cells then throw (.lostDataCell v.handle)
      return record.dataCell) := by
    change (h.losing losses).dataCell v = _
    unfold dataCell
    rw [show (h.losing losses).dataCellFaults.get? v.handle = none from hcell]
    rfl
  have hlength : (h.losing losses).source.valueLength v =
      ((h.losing losses).valueRecord v).map (·.length) := rfl
  rw [valueRunsLeft, valueRuns, hlength, hplace, hanswer, Losses.given]
  by_cases hv : v.handle ∈ losses.handles
  · simp only [if_pos hv, if_pos (Or.inl hv)]
    exact ⟨fun fault hf => (by cases hf; rfl), rfl⟩
  · by_cases hc : v.handle ∈ losses.cells
    · simp only [if_neg hv, if_pos hc, if_pos (Or.inr hc)]
      exact ⟨fun fault hf => (by cases hf; rfl), rfl⟩
    · simp only [if_neg hv, if_neg hc, if_neg (not_or.mpr ⟨hv, hc⟩)]
      exact ⟨fun fault hf => (by cases hf), rfl⟩

/-! ## Records of values -/

theorem Recorded.of_keys {h' : MemoryHive} (hr : h.Recorded) (hkeys : h'.keys = h.keys)
    (hvalues : h'.values = h.values) : h'.Recorded := by
  intro handle record hrecord
  rw [hkeys] at hrecord
  rw [hvalues]
  exact hr handle record hrecord

/-- Changing a record keeps values recorded if those that are new in its lists have records. -/
theorem Recorded.update (hr : h.Recorded) {handle : Int} {change : KeyRecord → KeyRecord}
    (hchange : ∀ record, ∀ v ∈ (change record).values.filterMap Slot.good?,
      v ∈ record.values.filterMap Slot.good? ∨ ∃ found, h.values.get? v.handle = some found) :
    Recorded { h with keys := h.keys.update handle change } := by
  intro other record hrecord v hv
  simp only [CellMap.get?_update] at hrecord
  split at hrecord
  · obtain ⟨old, hold, rfl⟩ := Option.map_eq_some_iff.mp hrecord
    exact (hchange old v hv).elim (hr other old hold v) id
  · exact hr other record hrecord v hv

theorem Recorded.appendChild (hr : h.Recorded) (parent : Int) (slot : Slot Node) :
    (h.appendChild parent slot).Recorded :=
  hr.update fun _ _ hv => .inl hv

theorem Recorded.appendValue (hr : h.Recorded) (node : Int) (slot : Slot Value)
    (hs : ∀ v, slot.good? = some v → ∃ found, h.values.get? v.handle = some found) :
    (h.appendValue node slot).Recorded := by
  refine hr.update fun record v hv => ?_
  rw [List.filterMap_append, List.mem_append] at hv
  refine hv.imp_right fun hv => ?_
  obtain ⟨other, hother, hgood⟩ := List.mem_filterMap.mp hv
  obtain rfl := List.mem_singleton.mp hother
  exact hs v hgood

theorem Recorded.addKey (hr : h.Recorded) (parent : Int) (key : NewKey) :
    (h.addKey parent key).1.Recorded := by
  have hput : Recorded { h with
      keys := h.keys.put h.nextOffset (key.record h.nextOffset)
      nextOffset := h.nextOffset + cellSize (key.record h.nextOffset).length } := by
    intro handle record hrecord v hv
    simp only [CellMap.get?_put] at hrecord
    split at hrecord
    · cases hrecord
      simp [NewKey.record] at hv
    · exact hr handle record hrecord v hv
  exact hput.appendChild parent _

theorem Recorded.addValue (hr : h.Recorded) (node : Int) (new : NewValue) :
    (h.addValue node new).1.Recorded := by
  simp only [MemoryHive.addValue]
  refine Recorded.appendValue ?_ node _ fun v hv => ?_
  · intro handle record hrecord v hv
    simp only [CellMap.get?_put]
    split
    · exact ⟨_, rfl⟩
    · exact hr handle record hrecord v hv
  · cases hv
    simp only [CellMap.get?_put, if_pos]
    exact ⟨_, rfl⟩

theorem recorded_create (root : NewKey) (lastModified : Option Int) (resumable : Bool) :
    (create root lastModified resumable).Recorded := by
  intro handle record hrecord v hv
  simp only [create, CellMap.get?_put] at hrecord
  split at hrecord
  · cases hrecord
    simp [NewKey.record] at hv
  · simp [CellMap.get?] at hrecord

/-- Every change keeps values recorded. -/
theorem Site.recorded_change {K : NewKey → Prop} {V : NewValue → Prop} {s s' : Site}
    (h : Site.Change K V s s') (hr : s.hive.Recorded) : s'.hive.Recorded := by
  cases h with
  | addKey parent => exact hr.addKey parent _
  | addValue node => exact hr.addValue node _
  | appendChild parent => exact hr.appendChild parent _
  | appendBadValue node => exact hr.appendValue node _ fun v hv => by cases hv
  | rest _ hkeys hvalues => exact hr.of_keys hkeys hvalues

/-- **In a hive that a script has built every value of a list has a record.** -/
theorem recorded_build {root : MemoryHive} (hr : root.Recorded) (steps : List Step) :
    (build root steps).hive.Recorded :=
  Site.build_of_any (P := fun s => s.hive.Recorded) (fun _ _ => Site.recorded_change) hr steps

end MemoryHive

end HiveDump
