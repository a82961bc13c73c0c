import HiveDump.Memory.Script
import HiveDump.Proofs.Walk.Met

/-!
# Scripted hives are closed

In a hive that a script has built, the root and every node that is listed anywhere have a record, so
no list of such a hive fails but by what the script has put in: a bad entry, or a list that was made
unreadable. Offsets do not come into it: where a script's lengths make cells overlap, a record hides
another one, and the handle still has a record.

Results:
* **`Site.step_of`**, `Site.build_of`: steps consist of a few changes, so what each of these keeps
  is kept by a script;
* `closed_build`: every step of a script keeps a hive closed;
* **`onlyMalformed_build`**: a scripted hive reports bad entries as malformed only.
-/

namespace HiveDump.MemoryHive

open Walk (MalformedOnly OnlyMalformed)

variable {h : MemoryHive}

/-! ## Closed hives -/

/-- Whether there is a record under the handle. -/
def Has (h : MemoryHive) (handle : Int) : Prop :=
  ∃ record, h.keys.get? handle = some record

/-- Whether the root and all nodes in the lists have records. -/
structure Closed (h : MemoryHive) : Prop where
  root : h.Has h.root.handle
  listed : ∀ handle record, h.keys.get? handle = some record →
    ∀ c ∈ record.children.filterMap Slot.good?, h.Has c.handle

/-- A closed hive stays closed if its keys stay as they are. -/
theorem Closed.of_keys {h' : MemoryHive} (hc : h.Closed) (hkeys : h'.keys = h.keys)
    (hroot : h'.root = h.root) : h'.Closed := by
  obtain ⟨hr, hl⟩ := hc
  refine ⟨?_, ?_⟩
  · rw [Has, hkeys, hroot]
    exact hr
  · intro handle record hrec c hm
    rw [hkeys] at hrec
    rw [Has, hkeys]
    exact hl handle record hrec c hm

theorem malformedOnly_met {α : Type} (resumable : Bool) :
    ∀ slots : List (Slot α), MalformedOnly (.ok (met resumable slots))
  | [] => by simp [MalformedOnly, Listing.entries, met]
  | .good a :: slots => by
    intro e he fault hf
    rcases List.mem_cons.mp he with rfl | he
    · cases hf
    · exact malformedOnly_met resumable slots e he fault hf
  | .bad message handle :: slots => by
    intro e he fault hf
    rcases List.mem_cons.mp he with rfl | he
    · cases hf
      rfl
    · cases resumable with
      | true => exact malformedOnly_met true slots e he fault hf
      | false => cases he

theorem has_of_reachable (hc : h.Closed) {n : Node} (hn : h.source.Reachable n) :
    h.Has n.handle := by
  induction hn with
  | root => exact hc.root
  | @child p c _ hm _ =>
    obtain ⟨es, hes, e, he, ho⟩ := Listing.mem_good.mp hm
    change h.children p = .ok es at hes
    unfold children at hes
    split at hes
    · cases hes
    · split at hes
      · next record hr =>
        cases hes
        refine hc.listed _ record hr c (mem_of_mem_met (List.mem_filterMap.mpr ⟨e, he, ?_⟩))
        rw [Entry.good?, ho]
      · cases hes

/-- A closed hive reports bad entries as malformed only. -/
theorem onlyMalformed_of_closed (hc : h.Closed) : OnlyMalformed h.source := by
  refine ⟨fun n hn => ?_, fun n hn => ?_⟩
  · obtain ⟨record, hr⟩ := has_of_reachable hc hn
    change MalformedOnly (h.children n)
    unfold children
    split
    · intro e he fault hf
      rw [List.mem_singleton.mp he] at hf
      cases hf
      rfl
    · rw [hr]
      exact malformedOnly_met _ _
  · obtain ⟨record, hr⟩ := has_of_reachable hc hn
    change MalformedOnly (h.valueList n)
    rw [valueList, hr]
    exact malformedOnly_met _ _

/-! ## What the steps of a script change -/

theorem has_update {handle other : Int} {change : KeyRecord → KeyRecord} :
    Has { h with keys := h.keys.update handle change } other ↔ h.Has other := by
  unfold Has
  simp only [CellMap.get?_update]
  split
  · cases h.keys.get? other <;> simp
  · rfl

theorem has_put {handle other : Int} {record : KeyRecord} (ho : h.Has other) :
    Has { h with keys := h.keys.put handle record } other := by
  unfold Has
  simp only [CellMap.get?_put]
  split
  · exact ⟨record, rfl⟩
  · exact ho

/-- Changing a record keeps a hive closed if the nodes that are new in its lists have records. -/
theorem Closed.update (hc : h.Closed) {handle : Int} {change : KeyRecord → KeyRecord}
    (hchange : ∀ record, ∀ c ∈ (change record).children.filterMap Slot.good?,
      c ∈ record.children.filterMap Slot.good? ∨ h.Has c.handle) :
    Closed { h with keys := h.keys.update handle change } := by
  refine ⟨has_update.mpr hc.root, fun other record hr c hm => has_update.mpr ?_⟩
  simp only [CellMap.get?_update] at hr
  split at hr
  · obtain ⟨old, ho, rfl⟩ := Option.map_eq_some_iff.mp hr
    rcases hchange old c hm with hm | hm
    · exact hc.listed other old ho c hm
    · exact hm
  · exact hc.listed other record hr c hm

theorem Closed.appendChild (hc : h.Closed) (parent : Int) (slot : Slot Node)
    (hs : ∀ c, slot.good? = some c → h.Has c.handle) : (h.appendChild parent slot).Closed := by
  refine hc.update fun record c hm => ?_
  rw [List.filterMap_append, List.mem_append] at hm
  refine hm.imp_right fun hm => ?_
  cases hg : slot.good? with
  | none => simp [hg] at hm
  | some d =>
    simp only [List.filterMap_cons, hg, List.filterMap_nil, List.mem_singleton] at hm
    rw [hm]
    exact hs d hg

theorem Closed.appendValue (hc : h.Closed) (node : Int) (slot : Slot Value) :
    (h.appendValue node slot).Closed :=
  hc.update fun _ _ hm => .inl hm

theorem Closed.put (hc : h.Closed) {handle : Int} {record : KeyRecord}
    (hr : record.children = []) : Closed { h with keys := h.keys.put handle record } := by
  refine ⟨has_put hc.root, fun other found hf c hm => has_put ?_⟩
  simp only [CellMap.get?_put] at hf
  split at hf
  · cases hf
    simp [hr] at hm
  · exact hc.listed other found hf c hm

theorem Closed.addKey (hc : h.Closed) (parent : Int) (key : NewKey) :
    (h.addKey parent key).1.Closed := by
  have hput : Closed { h with keys := h.keys.put h.nextOffset (key.record h.nextOffset) } :=
    hc.put rfl
  have hput' : Closed { h with
      keys := h.keys.put h.nextOffset (key.record h.nextOffset)
      nextOffset := h.nextOffset + cellSize (key.record h.nextOffset).length } :=
    hput.of_keys rfl rfl
  refine hput'.appendChild parent (.good (key.record h.nextOffset).node) fun c hg => ?_
  cases hg
  exact ⟨key.record h.nextOffset, by simp [NewKey.record]⟩

theorem has_addKey (parent : Int) (key : NewKey) {other : Int}
    (ho : h.Has other ∨ other = (h.addKey parent key).2.handle) :
    (h.addKey parent key).1.Has other := by
  refine has_update.mpr ?_
  rcases ho with ho | rfl
  · exact has_put ho
  · exact ⟨key.record h.nextOffset, by simp [MemoryHive.addKey, NewKey.record]⟩

theorem Closed.addValue (hc : h.Closed) (node : Int) (new : NewValue) :
    (h.addValue node new).1.Closed := by
  simp only [MemoryHive.addValue]
  refine Closed.appendValue ?_ node _
  exact hc.of_keys rfl rfl

theorem closed_create (root : NewKey) (lastModified : Option Int) (resumable : Bool) :
    (create root lastModified resumable).Closed := by
  refine ⟨⟨root.record firstOffset, by simp [create, NewKey.record]⟩, ?_⟩
  intro handle record hr c hm
  simp only [create, CellMap.get?_put] at hr
  split at hr
  · cases hr
    simp [NewKey.record] at hm
  · simp [CellMap.get?] at hr

/-! ## Scripts -/

/-- Whether a key or value that a step is given has a property. -/
def Step.Adds (K : NewKey → Prop) (V : NewValue → Prop) : Step → Prop
  | .key _ k => K k
  | .value _ v => V v
  | _ => True

namespace Site

/-- What the steps of a script consist of: a key or a value is added, an entry is appended to a
list, or keys and values stay as they are. -/
inductive Change (K : NewKey → Prop) (V : NewValue → Prop) (s : Site) : Site → Prop
  | addKey (parent : Int) {key : NewKey} (hk : K key) : Change K V s (s.addKey parent key).1
  | addValue (node : Int) {new : NewValue} (hv : V new) :
    Change K V s { s with
      hive := (s.hive.addValue node new).1, values := s.values.push (s.hive.addValue node new).2 }
  | appendChild (parent : Int) {slot : Slot Node} (hs : ∀ c, slot.good? = some c → c ∈ s.nodes) :
    Change K V s { s with hive := s.hive.appendChild parent slot }
  | appendBadValue (node : Int) (message : String) (handle : Int) :
    Change K V s { s with hive := s.hive.appendValue node (.bad message handle) }
  | rest {s' : Site} (hroot : s'.hive.root = s.hive.root) (hkeys : s'.hive.keys = s.hive.keys)
      (hvalues : s'.hive.values = s.hive.values) (hnext : s'.hive.nextOffset = s.hive.nextOffset)
      (hbuilt : s'.nodes = s.nodes ∧ s'.values = s.values) :
    Change K V s s'

section Steps

variable {K : NewKey → Prop} {V : NewValue → Prop} {P : Site → Prop} {s : Site}

theorem onNode_of (hs : P s) (node : Nat) {change : Int → Site} (h : ∀ handle, P (change handle)) :
    P (s.onNode node change) := by
  unfold Site.onNode
  split
  · exact h _
  · exact hs

theorem onValue_of (hs : P s) (value : Nat) {change : Int → Site}
    (h : ∀ handle, P (change handle)) : P (s.onValue value change) := by
  unfold Site.onValue
  split
  · exact h _
  · exact hs

theorem addChain_of (hP : ∀ s s', Change K V s s' → P s → P s')
    (hnamed : ∀ name, K { name := some name }) (label : String) :
    ∀ (count first : Nat) {s : Site} (parent : Int), P s →
      P (s.addChain parent label first count).1
  | 0, _, _, _, hs => hs
  | n + 1, first, s, parent, hs => by
    simp only [Site.addChain]
    exact addChain_of hP hnamed label n (first + 1) _ (hP s _ (.addKey parent (hnamed _)) hs)

/-- **What every change keeps is kept by a step.** -/
theorem step_of (hP : ∀ s s', Change K V s s' → P s → P s')
    (hnamed : ∀ name, K { name := some name }) (hs : P s) {step : Step} (hstep : step.Adds K V) :
    P (s.step step) := by
  unfold Site.step
  cases step with
  | key parent key =>
    refine onNode_of hs parent fun handle => ?_
    refine hP _ _ ?_ (hP s _ (.addKey handle hstep) hs)
    exact .rest rfl rfl rfl rfl ⟨rfl, rfl⟩
  | chain parent count label =>
    refine onNode_of hs parent fun handle => ?_
    refine hP _ _ ?_ (addChain_of hP hnamed label count 0 handle hs)
    exact .rest rfl rfl rfl rfl ⟨rfl, rfl⟩
  | value node new =>
    refine onNode_of hs node fun handle => ?_
    refine hP _ _ ?_ (hP s _ (.addValue handle hstep) hs)
    exact .rest rfl rfl rfl rfl ⟨rfl, rfl⟩
  | badChild node message =>
    exact onNode_of hs node fun handle => hP s _ (.appendChild handle fun c hc => by cases hc) hs
  | badValue node message =>
    exact onNode_of hs node fun handle => hP s _ (.appendBadValue handle message handle) hs
  | link parent child =>
    refine onNode_of hs parent fun handle => ?_
    split
    · next node hnode =>
      refine hP s _ (.appendChild handle fun c hc => ?_) hs
      cases hc
      exact Array.mem_of_getElem? hnode
    · exact hs
  | invalidNode node =>
    exact onNode_of hs node fun _ => hP s _ (.rest rfl rfl rfl rfl ⟨rfl, rfl⟩) hs
  | invalidValue value =>
    exact onValue_of hs value fun _ => hP s _ (.rest rfl rfl rfl rfl ⟨rfl, rfl⟩) hs
  | lostCell value =>
    exact onValue_of hs value fun _ => hP s _ (.rest rfl rfl rfl rfl ⟨rfl, rfl⟩) hs
  | unreadableList node =>
    exact onNode_of hs node fun _ => hP s _ (.rest rfl rfl rfl rfl ⟨rfl, rfl⟩) hs
  | failToClose => exact hP s _ (.rest rfl rfl rfl rfl ⟨rfl, rfl⟩) hs
  | dataCellFault value fault =>
    exact onValue_of hs value fun _ => hP s _ (.rest rfl rfl rfl rfl ⟨rfl, rfl⟩) hs

/-- **What every change keeps is kept by a script.** -/
theorem build_of (hP : ∀ s s', Change K V s s' → P s → P s')
    (hnamed : ∀ name, K { name := some name }) {root : MemoryHive} (hs : P (start root))
    {steps : List Step} (hsteps : ∀ step ∈ steps, step.Adds K V) : P (build root steps) := by
  suffices ∀ s : Site, P s → P (steps.foldl Site.step s) from this _ hs
  induction steps with
  | nil => exact fun s hs => hs
  | cons step steps ih =>
    obtain ⟨hstep, hsteps⟩ := List.forall_mem_cons.mp hsteps
    exact fun s hs => ih hsteps _ (step_of hP hnamed hs hstep)

/-- What every change keeps, whatever is added, is kept by every script. -/
theorem build_of_any (hP : ∀ s s', Change (fun _ => True) (fun _ => True) s s' → P s → P s')
    {root : MemoryHive} (hs : P (start root)) (steps : List Step) : P (build root steps) :=
  build_of hP (fun _ => trivial) hs fun step _ => by cases step <;> trivial

end Steps

/-- Whether the hive is closed and every node built so far has a record. -/
structure Sound (s : Site) : Prop where
  closed : s.hive.Closed
  nodes : ∀ n ∈ s.nodes, s.hive.Has n.handle

/-- Every change keeps a site sound. -/
theorem Sound.change {K : NewKey → Prop} {V : NewValue → Prop} {s s' : Site}
    (h : Change K V s s') (hs : s.Sound) : s'.Sound := by
  cases h with
  | addKey parent =>
    refine ⟨hs.closed.addKey parent _, fun n hn => has_addKey parent _ ?_⟩
    rcases Array.mem_push.mp hn with hn | rfl
    · exact .inl (hs.nodes n hn)
    · exact .inr rfl
  | addValue node => exact ⟨hs.closed.addValue node _, fun n hn => has_update.mpr (hs.nodes n hn)⟩
  | appendChild parent hslot =>
    refine ⟨hs.closed.appendChild parent _ fun c hc => hs.nodes c (hslot c hc), fun n hn => ?_⟩
    exact has_update.mpr (hs.nodes n hn)
  | appendBadValue node =>
    exact ⟨hs.closed.appendValue node _, fun n hn => has_update.mpr (hs.nodes n hn)⟩
  | rest hroot hkeys _ _ hbuilt =>
    refine ⟨hs.closed.of_keys hkeys hroot, fun n hn => ?_⟩
    rw [Has, hkeys]
    exact hs.nodes n (hbuilt.1 ▸ hn)

end Site

/-- Every step of a script keeps a hive closed. -/
theorem closed_build {root : MemoryHive} (hc : root.Closed) (steps : List Step) :
    (build root steps).hive.Closed := by
  have hstart : (Site.start root).Sound := by
    refine ⟨hc, fun n hn => ?_⟩
    rw [show n = root.root by simpa [Site.start] using hn]
    exact hc.root
  exact (Site.build_of_any (fun _ _ => Site.Sound.change) hstart steps).closed

/-- **A scripted hive reports bad entries as malformed only.** -/
theorem onlyMalformed_build (root : NewKey) (lastModified : Option Int) (resumable : Bool)
    (steps : List Step) :
    OnlyMalformed (build (create root lastModified resumable) steps).hive.source :=
  onlyMalformed_of_closed (closed_build (closed_create root lastModified resumable) steps)

end HiveDump.MemoryHive
