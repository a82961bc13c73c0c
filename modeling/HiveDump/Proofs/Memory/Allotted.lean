import HiveDump.Failing
import HiveDump.Proofs.Memory.Closed
import HiveDump.Report.ByteRuns
import Mathlib.Algebra.BigOperators.Group.List.Basic
import Mathlib.Algebra.Ring.Int.Defs
import Mathlib.Data.List.Pairwise

/-!
# Cells of hives in memory

A hive in memory lays down its records and payloads one behind the other. Each key and each value
takes a cell, and so does each payload of more than four bytes. A cell has room for four bytes more
than what it is for, starts at a multiple of eight and ends where the next one starts.

So the handles, which are the offsets of the cells, are all different, and whatever byte run is
reported of a record or a payload lies in its own cell. This needs lengths of records that are not
negative, and payloads that are not put elsewhere.

Results:
* `Tiled.cons`: one more cell behind the others;
* `Housed.addKey`, `Housed.addValue`: what a key and a value take;
* `exists_cell_of_reports`: the cell of a byte run;
* **`cells_hold_runs`**: cells, handles and byte runs of scripted hives.
-/

namespace HiveDump

/-! ## Records by handle -/

namespace CellMap

variable {α : Type} {m : CellMap α} {handle : Int} {change : α → α}

/-- What a change does not touch stays as it is. -/
theorem map_update {β : Type} (m : CellMap α) (handle : Int) {f : Int × α → β}
    (hf : ∀ e, f (e.1, change e.2) = f e) :
    (m.update handle change).entries.map f = m.entries.map f := by
  unfold update
  rw [List.map_map]
  refine List.map_congr_left fun e _ => ?_
  rw [Function.comp_apply]
  split
  · exact hf e
  · rfl

theorem forall_update {P : Int × α → Prop} (h : ∀ e ∈ m.entries, P e)
    (hchange : ∀ e, P e → P (e.1, change e.2)) : ∀ e ∈ (m.update handle change).entries, P e := by
  intro e he
  obtain ⟨old, hold, rfl⟩ := List.mem_map.mp he
  split
  · exact hchange old (h old hold)
  · exact h old hold

theorem mem_of_get? {a : α} (h : m.get? handle = some a) : (handle, a) ∈ m.entries := by
  obtain ⟨⟨found, b⟩, he, rfl⟩ := Option.map_eq_some_iff.mp h
  have hfound : found = handle := by simpa using List.find?_some he
  rw [← hfound]
  exact List.mem_of_find?_eq_some he

/-- A record whose handle no other one has is found. -/
theorem get?_of_mem {a : α} (hm : (m.entries.map (·.1)).Nodup) (ha : (handle, a) ∈ m.entries) :
    m.get? handle = some a := by
  obtain ⟨entries⟩ := m
  unfold get?
  induction entries with
  | nil => cases ha
  | cons e entries ih =>
    obtain ⟨hne, hm⟩ := List.nodup_cons.mp hm
    rcases List.mem_cons.mp ha with rfl | ha
    · simp
    · have hhandle : handle ∈ entries.map (·.1) := List.mem_map.mpr ⟨_, ha, rfl⟩
      have he : e.1 ≠ handle := by
        rintro rfl
        exact hne hhandle
      rw [List.find?_cons_of_neg (by simpa using he)]
      exact ih hm ha

theorem get?_eq_none (h : handle ∉ m.entries.map (·.1)) : m.get? handle = none := by
  cases hget : m.get? handle with
  | none => rfl
  | some a => exact absurd (List.mem_map.mpr ⟨_, mem_of_get? hget, rfl⟩) h

/-- Whether the records of a map are those of what has been built, the last one first, each under
its handle. -/
def Records {β : Type} (m : CellMap α) (told : α → β) (handleOf : β → Int)
    (built : Array β) : Prop :=
  m.entries.map (fun e => (e.1, told e.2)) = built.toList.reverse.map fun b => (handleOf b, b)

section Records

variable {β : Type} {told : α → β} {handleOf : β → Int} {built : Array β}

theorem Records.put (hm : m.Records told handleOf built) (record : α)
    (hhandle : handleOf (told record) = handle) :
    (m.put handle record).Records told handleOf (built.push (told record)) := by
  unfold Records at hm ⊢
  simp [CellMap.put, hm, hhandle]

theorem Records.update (hm : m.Records told handleOf built)
    (hchange : ∀ a, told (change a) = told a) :
    (m.update handle change).Records told handleOf built :=
  (map_update m handle fun e => by rw [hchange]).trans hm

theorem Records.handles (hm : m.Records told handleOf built) :
    m.entries.map (·.1) = (built.toList.map handleOf).reverse := by
  have hfst := congrArg (List.map Prod.fst) hm
  rwa [List.map_map, List.map_map, List.map_reverse] at hfst

theorem Records.exists_mem (hm : m.Records told handleOf built) {b : β} (hb : b ∈ built) :
    ∃ a, (handleOf b, a) ∈ m.entries ∧ told a = b := by
  have hmem : (handleOf b, b) ∈ m.entries.map fun e => (e.1, told e.2) := by
    rw [hm]
    exact List.mem_map.mpr ⟨b, by simpa using hb, rfl⟩
  obtain ⟨⟨_, a⟩, he, heq⟩ := List.mem_map.mp hmem
  obtain ⟨hhandle, htold⟩ := Prod.mk.inj heq
  exact ⟨a, hhandle ▸ he, htold⟩

end Records

end CellMap

namespace MemoryHive

variable {h : MemoryHive}

/-! ## Cells -/

/-- What a cell is for: the record of a key or value, or the payload of a value, by their
handles. -/
inductive Use
  | key (handle : Int)
  | value (handle : Int)
  | payload (value : Int)
  deriving DecidableEq

/-- A cell that was allotted. -/
structure Allotment where
  use : Use
  start : Int
  size : Int

namespace Allotment

/-- Where a cell ends. -/
def stop (c : Allotment) : Int :=
  c.start + c.size

/-- Whether two cells have no byte in common. -/
def Apart (a b : Allotment) : Prop :=
  a.stop ≤ b.start ∨ b.stop ≤ a.start

/-- Whether a byte run lies in a cell. -/
def Holds (c : Allotment) (offset length : Int) : Prop :=
  c.start ≤ offset ∧ 0 ≤ length ∧ offset + length ≤ c.stop

instance : Std.Symm Apart :=
  ⟨fun _ _ => Or.symm⟩

end Allotment

/-- The cell of a key. -/
def keyCell (e : Int × KeyRecord) : Allotment :=
  ⟨.key e.1, e.1, cellSize e.2.length⟩

/-- The cell of a value's record. -/
def valueCell (e : Int × ValueRecord) : Allotment :=
  ⟨.value e.1, e.1, cellSize e.2.length⟩

/-- The cells of a value: that of its record, and one of its payload if this is too long for the
record. -/
def valueCells (e : Int × ValueRecord) : List Allotment :=
  valueCell e :: if inlineLimit < e.2.value.length then
    [⟨.payload e.1, e.2.dataCell.1, cellSize e.2.value.length⟩] else []

/-- The cells of a hive. -/
def allotted (h : MemoryHive) : List Allotment :=
  h.keys.entries.map keyCell ++ h.values.entries.flatMap valueCells

/-- Whether cells are laid one behind the other from the first offset to `next`, at multiples of
eight, without a gap. -/
structure Tiled (cells : List Allotment) (next : Int) : Prop where
  aligned : ∀ c ∈ cells, 8 ∣ c.start ∧ 8 ∣ c.stop
  inside : ∀ c ∈ cells, firstOffset ≤ c.start ∧ c.start < c.stop ∧ c.stop ≤ next
  apart : cells.Pairwise Allotment.Apart
  filled : (cells.map Allotment.size).sum = next - firstOffset
  first_le : firstOffset ≤ next
  next : 8 ∣ next

section Tiles

variable {cells cells' : List Allotment} {next length : Int}

theorem Tiled.nil : Tiled [] firstOffset :=
  ⟨by simp, by simp, .nil, by simp, Int.le_refl _, by decide⟩

theorem cellSize_spec (length : Int) : 8 ∣ cellSize length ∧ length + 4 ≤ cellSize length := by
  unfold cellSize
  omega

/-- **One more cell behind the others.** -/
theorem Tiled.cons (ht : Tiled cells next) (use : Use) (hl : 0 ≤ length) :
    Tiled (⟨use, next, cellSize length⟩ :: cells) (next + cellSize length) := by
  obtain ⟨hdvd, hsize⟩ := cellSize_spec length
  have hend : 8 ∣ next + cellSize length := Int.dvd_add ht.next hdvd
  have hfirst := ht.first_le
  refine ⟨List.forall_mem_cons.mpr ⟨⟨ht.next, hend⟩, ht.aligned⟩,
    List.forall_mem_cons.mpr ⟨⟨hfirst, ?_, Int.le_refl _⟩, fun c hc => ?_⟩,
    List.pairwise_cons.mpr ⟨fun c hc => .inr (ht.inside c hc).2.2, ht.apart⟩, ?_, by omega, hend⟩
  · change next < next + cellSize length
    omega
  · obtain ⟨hstart, hpos, hstop⟩ := ht.inside c hc
    exact ⟨hstart, hpos, by omega⟩
  · rw [List.map_cons, List.sum_cons, ht.filled]
    change cellSize length + (next - firstOffset) = _
    omega

theorem Tiled.perm (ht : Tiled cells next) (hp : cells'.Perm cells) : Tiled cells' next := by
  refine ⟨fun c hc => ht.aligned c (hp.mem_iff.mp hc), fun c hc => ht.inside c (hp.mem_iff.mp hc),
    (hp.pairwise_iff Or.symm).mpr ht.apart, ?_, ht.first_le, ht.next⟩
  rw [(hp.map _).sum_eq, ht.filled]

/-- No two cells start at the same offset. -/
theorem Tiled.nodup_starts (ht : Tiled cells next) : (cells.map Allotment.start).Nodup := by
  refine List.pairwise_map.mpr (ht.apart.imp_of_mem fun {a b} ha hb hapart heq => ?_)
  have hposa := (ht.inside a ha).2.1
  have hposb := (ht.inside b hb).2.1
  unfold Allotment.Apart at hapart
  omega

end Tiles

/-! ## What keys and values take -/

/-- Whether a key is given no negative length. -/
def NewKey.Measured (key : NewKey) : Prop :=
  ∀ length, key.length = some length → 0 ≤ length

/-- Whether the place of a value's payload is left to the hive. -/
def NewValue.Unplaced (new : NewValue) : Prop :=
  new.dataCell = none

theorem NewKey.recordLength_nonneg {key : NewKey} (hk : key.Measured) : 0 ≤ key.recordLength := by
  unfold recordLength
  cases hlength : key.length with
  | none =>
    unfold keyFixedSize
    simp only [Option.getD_none]
    omega
  | some length => exact hk length hlength

theorem NewValue.recordLength_nonneg (new : NewValue) : 0 ≤ new.recordLength := by
  unfold recordLength valueFixedSize
  omega

/-- What is told of the payload of a value: its cell and its length there, or nothing. -/
def PayloadTold (record : ValueRecord) : Prop :=
  if inlineLimit < record.value.length then record.dataCell.2 = record.value.length + 4
  else record.dataCell = (0, 0)

/-- Whether the records and payloads of a hive lie in cells of their own. -/
structure Housed (h : MemoryHive) : Prop where
  tiled : Tiled h.allotted h.nextOffset
  keys : ∀ e ∈ h.keys.entries, 0 ≤ e.2.length
  values : ∀ e ∈ h.values.entries, 0 ≤ e.2.length ∧ PayloadTold e.2

/-- Cells do not depend on what the lists of a key hold. -/
theorem allotted_update {handle : Int} {change : KeyRecord → KeyRecord}
    (hc : ∀ record, (change record).length = record.length) :
    allotted { h with keys := h.keys.update handle change } = h.allotted := by
  unfold allotted
  rw [CellMap.map_update]
  intro e
  rw [keyCell, hc]
  rfl

theorem Housed.update (hh : h.Housed) {handle : Int} {change : KeyRecord → KeyRecord}
    (hc : ∀ record, (change record).length = record.length) :
    Housed { h with keys := h.keys.update handle change } := by
  refine ⟨?_, CellMap.forall_update hh.keys fun e he => ?_, hh.values⟩
  · rw [allotted_update hc]
    exact hh.tiled
  · rwa [hc]

/-- **A key takes one cell.** -/
theorem Housed.addKey (hh : h.Housed) (parent : Int) {key : NewKey} (hk : key.Measured) :
    (h.addKey parent key).1.Housed := by
  have hlength := key.recordLength_nonneg hk
  have hput : Housed { h with
      keys := h.keys.put h.nextOffset (key.record h.nextOffset)
      nextOffset := h.nextOffset + cellSize (key.record h.nextOffset).length } :=
    ⟨hh.tiled.cons (.key h.nextOffset) hlength, List.forall_mem_cons.mpr ⟨hlength, hh.keys⟩,
      hh.values⟩
  exact hput.update fun _ => rfl

/-- A value is put behind everything else. -/
theorem Housed.putValue (hh : h.Housed) {record : ValueRecord} {handle next : Int}
    (hlength : 0 ≤ record.length) (htold : PayloadTold record)
    (ht : Tiled (valueCells (handle, record) ++ h.allotted) next) :
    Housed { h with values := h.values.put handle record, nextOffset := next } :=
  ⟨ht.perm (List.perm_append_comm_assoc (h.keys.entries.map keyCell) (valueCells (handle, record))
      (h.values.entries.flatMap valueCells)),
    hh.keys, List.forall_mem_cons.mpr ⟨⟨hlength, htold⟩, hh.values⟩⟩

/-- **A value takes a cell, and one more if its payload is too long for the record.** -/
theorem Housed.addValue (hh : h.Housed) (node : Int) {new : NewValue} (hv : new.Unplaced) :
    (h.addValue node new).1.Housed := by
  have hlength := new.recordLength_nonneg
  have hrecord := hh.tiled.cons (.value h.nextOffset) hlength
  have hplace : new.dataCell = none := hv
  simp only [MemoryHive.addValue, hplace, Option.isNone_none, Option.getD_none, Bool.true_and,
    decide_eq_true_eq]
  refine Housed.update (Housed.putValue hh hlength ?_ ?_) fun _ => rfl
  · change if inlineLimit < new.payloadLength then _ else _
    by_cases hlong : inlineLimit < new.payloadLength
    · rw [if_pos hlong, if_pos (show 4 < new.payloadLength from hlong)]
      rfl
    · rw [if_neg hlong, if_neg (show ¬4 < new.payloadLength from hlong)]
  · change Tiled ((_ :: if inlineLimit < new.payloadLength then _ else _) ++ _) _
    by_cases hlong : inlineLimit < new.payloadLength
    · simp only [if_pos hlong, if_pos (show 4 < new.payloadLength from hlong)]
      have hpayload : 0 ≤ new.payloadLength := Int.le_of_lt (Int.lt_trans (by decide) hlong)
      exact (hrecord.cons (.payload h.nextOffset) hpayload).perm (.swap ..)
    · simp only [if_neg hlong, if_neg (show ¬4 < new.payloadLength from hlong)]
      exact hrecord

/-- Every change keeps records and payloads in cells of their own. -/
theorem Site.housed_change {s s' : Site} (hc : Site.Change NewKey.Measured NewValue.Unplaced s s')
    (hh : s.hive.Housed) : s'.hive.Housed := by
  cases hc with
  | addKey parent hk => exact hh.addKey parent hk
  | addValue node hv => exact hh.addValue node hv
  | appendChild => exact hh.update fun _ => rfl
  | appendBadValue => exact hh.update fun _ => rfl
  | rest _ hkeys hvalues hnext =>
    refine ⟨?_, by rw [hkeys]; exact hh.keys, by rw [hvalues]; exact hh.values⟩
    rw [allotted, hkeys, hvalues, hnext]
    exact hh.tiled

theorem housed_create {root : NewKey} (hroot : root.Measured) (lastModified : Option Int)
    (resumable : Bool) : (create root lastModified resumable).Housed := by
  have hlength := root.recordLength_nonneg hroot
  refine ⟨Tiled.nil.cons (.key firstOffset) hlength, ?_, fun e he => by cases he⟩
  exact List.forall_mem_singleton.mpr hlength

/-! ## Byte runs -/

/-- The byte runs that the source of a hive tells of records and payloads. -/
inductive Reports (h : MemoryHive) : Use → Int → Int → Prop
  | key {n : Node} {length : Int} (hl : h.source.nodeLength n = .ok length) :
    Reports h (.key n.handle) n.handle length
  | value {v : Value} {length : Int} (hl : h.source.valueLength v = .ok length) :
    Reports h (.value v.handle) v.handle length
  | payload {v : Value} {offset length : Int} (hc : h.source.dataCell v = .ok (offset, length))
    (hlong : inlineLimit < length) : Reports h (.payload v.handle) offset length

theorem mem_keys_of_key {n : Node} {record : KeyRecord} (hk : h.key n = .ok record) :
    (n.handle, record) ∈ h.keys.entries := by
  unfold key at hk
  split at hk
  · cases hk
  · split at hk
    · next found hget =>
      cases hk
      exact CellMap.mem_of_get? hget
    · cases hk

theorem mem_values_of_valueRecord {v : Value} {record : ValueRecord}
    (hv : h.valueRecord v = .ok record) : (v.handle, record) ∈ h.values.entries := by
  unfold valueRecord at hv
  split at hv
  · cases hv
  · split at hv
    · next found hget =>
      cases hv
      exact CellMap.mem_of_get? hget
    · cases hv

/-- A data cell that is told is the one of the value's record. -/
theorem valueRecord_of_dataCell {v : Value} {cell : Int × Int} (hc : h.dataCell v = .ok cell) :
    ∃ record, h.valueRecord v = .ok record ∧ record.dataCell = cell := by
  unfold dataCell at hc
  split at hc
  · cases hc
  · obtain ⟨record, hrecord, hc⟩ := Failing.bind_eq_ok.mp hc
    split at hc
    · cases hc
    · cases hc
      exact ⟨record, hrecord, rfl⟩

/-- A cell has room for four bytes more than what it is for. -/
theorem holds_start {use : Use} {start length room : Int} (hl : 0 ≤ length)
    (hroom : length ≤ room + 4) :
    Allotment.Holds ⟨use, start, cellSize room⟩ start length := by
  obtain ⟨-, hsize⟩ := cellSize_spec room
  refine ⟨Int.le_refl _, hl, ?_⟩
  change start + length ≤ start + cellSize room
  omega

/-- **Whatever byte run is told lies in the cell of what it is told of.** -/
theorem exists_cell_of_reports (hh : h.Housed) {use : Use} {offset length : Int}
    (hr : h.Reports use offset length) :
    ∃ c ∈ h.allotted, c.use = use ∧ c.Holds offset length := by
  cases hr with
  | @key n _ hl =>
    obtain ⟨record, hkey, rfl⟩ := Failing.map_eq_ok.mp hl
    have hmem := mem_keys_of_key hkey
    refine ⟨keyCell (n.handle, record), ?_, rfl, ?_⟩
    · exact List.mem_append_left _ (List.mem_map_of_mem hmem)
    · exact holds_start (hh.keys _ hmem) (Int.le_add_of_nonneg_right (by decide))
  | @value v _ hl =>
    obtain ⟨record, hrecord, rfl⟩ := Failing.map_eq_ok.mp hl
    have hmem := mem_values_of_valueRecord hrecord
    refine ⟨valueCell (v.handle, record), ?_, rfl, ?_⟩
    · exact List.mem_append_right _ (List.mem_flatMap.mpr ⟨_, hmem, List.mem_cons_self⟩)
    · exact holds_start (hh.values _ hmem).1 (Int.le_add_of_nonneg_right (by decide))
  | @payload v _ _ hc hlong =>
    obtain ⟨record, hrecord, hcell⟩ := valueRecord_of_dataCell hc
    have hmem := mem_values_of_valueRecord hrecord
    have htold : PayloadTold record := (hh.values _ hmem).2
    unfold PayloadTold at htold
    by_cases hpayload : inlineLimit < record.value.length
    · rw [if_pos hpayload, hcell] at htold
      refine ⟨⟨.payload v.handle, record.dataCell.1, cellSize record.value.length⟩, ?_, rfl, ?_⟩
      · refine List.mem_append_right _ (List.mem_flatMap.mpr ⟨_, hmem, ?_⟩)
        simp [valueCells, hpayload]
      · rw [hcell]
        exact holds_start (Int.le_of_lt (Int.lt_trans (by decide) hlong)) (Int.le_of_eq htold)
    · rw [if_neg hpayload, hcell] at htold
      cases htold
      exact absurd hlong (by decide)

/-! ## Handles -/

namespace Site

/-- Whether the lists of a key hold nothing but what has been built. -/
def Lists (s : Site) (record : KeyRecord) : Prop :=
  (∀ c ∈ record.children.filterMap Slot.good?, c ∈ s.nodes) ∧
    ∀ v ∈ record.values.filterMap Slot.good?, v ∈ s.values

/-- Whether the records of a hive are those of the nodes and values built. -/
structure Registered (s : Site) : Prop where
  nodes : s.hive.keys.Records KeyRecord.node Node.handle s.nodes
  values : s.hive.values.Records ValueRecord.value Value.handle s.values
  root : s.hive.root ∈ s.nodes
  listed : ∀ e ∈ s.hive.keys.entries, s.Lists e.2

variable {s s' : Site}

/-- The lists of a new key are empty. -/
theorem lists_record (s : Site) (key : NewKey) (offset : Int) : s.Lists (key.record offset) :=
  ⟨List.forall_mem_nil _, List.forall_mem_nil _⟩

theorem forall_good_append {α : Type} {P : α → Prop} {slots : List (Slot α)} {slot : Slot α}
    (h : ∀ a ∈ slots.filterMap Slot.good?, P a) (hs : ∀ a, slot.good? = some a → P a) :
    ∀ a ∈ (slots ++ [slot]).filterMap Slot.good?, P a := by
  intro a ha
  rw [List.filterMap_append, List.mem_append] at ha
  rcases ha with ha | ha
  · exact h a ha
  · obtain ⟨_, hmem, hgood⟩ := List.mem_filterMap.mp ha
    obtain rfl := List.mem_singleton.mp hmem
    exact hs a hgood

theorem Registered.appendChild (hr : s.Registered) (parent : Int) {slot : Slot Node}
    (hs : ∀ c, slot.good? = some c → c ∈ s.nodes) :
    Registered { s with hive := s.hive.appendChild parent slot } := by
  refine ⟨hr.nodes.update fun _ => rfl, hr.values, hr.root, ?_⟩
  exact CellMap.forall_update hr.listed fun e he => ⟨forall_good_append he.1 hs, he.2⟩

theorem Registered.appendValue (hr : s.Registered) (node : Int) {slot : Slot Value}
    (hs : ∀ v, slot.good? = some v → v ∈ s.values) :
    Registered { s with hive := s.hive.appendValue node slot } := by
  refine ⟨hr.nodes.update fun _ => rfl, hr.values, hr.root, ?_⟩
  exact CellMap.forall_update hr.listed fun e he => ⟨he.1, forall_good_append he.2 hs⟩

theorem Registered.addKey (hr : s.Registered) (parent : Int) (key : NewKey) :
    (s.addKey parent key).1.Registered := by
  let record := key.record s.hive.nextOffset
  have hput : Registered { s with
      hive := { s.hive with
        keys := s.hive.keys.put s.hive.nextOffset record
        nextOffset := s.hive.nextOffset + cellSize record.length }
      nodes := s.nodes.push record.node } := by
    refine ⟨hr.nodes.put record rfl, hr.values, Array.mem_push_of_mem _ hr.root,
      List.forall_mem_cons.mpr ⟨lists_record _ _ _, fun e he => ⟨fun c hc => ?_, ?_⟩⟩⟩
    · exact Array.mem_push_of_mem _ ((hr.listed e he).1 c hc)
    · exact (hr.listed e he).2
  refine hput.appendChild parent fun c hc => ?_
  cases hc
  exact Array.mem_push_self

theorem Registered.addValue (hr : s.Registered) (node : Int) (new : NewValue) :
    Registered { s with
      hive := (s.hive.addValue node new).1
      values := s.values.push (s.hive.addValue node new).2 } := by
  have hput {record : ValueRecord} {next : Int}
      (hrecord : record.value.handle = s.hive.nextOffset) :
      Registered { s with
        hive := { s.hive with
          values := s.hive.values.put s.hive.nextOffset record, nextOffset := next }
        values := s.values.push record.value } := by
    refine ⟨hr.nodes, hr.values.put record hrecord, hr.root,
      fun e he => ⟨(hr.listed e he).1, fun v hv => ?_⟩⟩
    exact Array.mem_push_of_mem _ ((hr.listed e he).2 v hv)
  refine (hput rfl).appendValue node fun v hv => ?_
  cases hv
  exact Array.mem_push_self

/-- Every change keeps the records those of what has been built. -/
theorem Registered.change {K : NewKey → Prop} {V : NewValue → Prop} (hc : Change K V s s')
    (hr : s.Registered) : s'.Registered := by
  cases hc with
  | addKey parent => exact hr.addKey parent _
  | addValue node => exact hr.addValue node _
  | appendChild parent hslot => exact hr.appendChild parent hslot
  | appendBadValue node => exact hr.appendValue node fun v hv => by cases hv
  | rest hroot hkeys hvalues _ hbuilt =>
    obtain ⟨hnodes, hvalueList⟩ := hbuilt
    refine ⟨?_, ?_, ?_, ?_⟩
    · rw [hkeys, hnodes]
      exact hr.nodes
    · rw [hvalues, hvalueList]
      exact hr.values
    · rw [hroot, hnodes]
      exact hr.root
    · rw [hkeys]
      simpa only [Lists, hnodes, hvalueList] using hr.listed

end Site

theorem registered_create (root : NewKey) (lastModified : Option Int) (resumable : Bool) :
    (Site.start (create root lastModified resumable)).Registered := by
  refine ⟨rfl, rfl, by simp [Site.start], List.forall_mem_singleton.mpr ?_⟩
  exact Site.lists_record _ _ _

/-! ## Handles tell records apart -/

/-- Whether everything that has been built has a handle of its own, by which it is found, and the
lists hold nothing else. -/
structure Site.Identified (s : Site) : Prop where
  distinct : (s.nodes.toList.map (·.handle) ++ s.values.toList.map (·.handle)).Nodup
  node : ∀ n ∈ s.nodes, s.hive.values.get? n.handle = none ∧
    ∃ record, s.hive.keys.get? n.handle = some record ∧ record.node = n
  value : ∀ v ∈ s.values, s.hive.keys.get? v.handle = none ∧
    ∃ record, s.hive.values.get? v.handle = some record ∧ record.value = v
  root : s.hive.root ∈ s.nodes
  subkeys : ∀ n, ∀ c ∈ Listing.good (s.hive.source.children n), c ∈ s.nodes
  values : ∀ n, ∀ v ∈ Listing.good (s.hive.source.values n), v ∈ s.values

theorem sublist_valueCells (entries : List (Int × ValueRecord)) :
    (entries.map valueCell).Sublist (entries.flatMap valueCells) := by
  induction entries with
  | nil => exact .slnil
  | cons e entries ih =>
    rw [List.map_cons, List.flatMap_cons, valueCells, List.cons_append]
    exact (ih.trans (List.sublist_append_right _ _)).cons_cons _

/-- No two records have the same handle. -/
theorem Housed.nodup_handles (hh : h.Housed) :
    (h.keys.entries.map (·.1) ++ h.values.entries.map (·.1)).Nodup := by
  have hcells : (h.keys.entries.map keyCell ++ h.values.entries.map valueCell).Sublist
      h.allotted := (sublist_valueCells _).append_left _
  have hstarts := (hcells.map Allotment.start).nodup hh.tiled.nodup_starts
  rw [List.map_append, List.map_map, List.map_map] at hstarts
  exact hstarts

theorem exists_mem_values {n : Node} {v : Value} (hv : v ∈ Listing.good (h.source.values n)) :
    ∃ e ∈ h.keys.entries, v ∈ e.2.values.filterMap Slot.good? := by
  change v ∈ Listing.good (h.valueList n) at hv
  unfold valueList at hv
  split at hv
  · next record hget => exact ⟨_, CellMap.mem_of_get? hget, mem_of_mem_met hv⟩
  · cases hv

/-- **Handles tell records apart** where these lie in cells of their own. -/
theorem Site.Registered.identified {s : Site} (hr : s.Registered) (hh : s.hive.Housed) :
    s.Identified := by
  have hnodup := hh.nodup_handles
  obtain ⟨hkeys, hvalues, hapart⟩ := List.nodup_append.mp hnodup
  refine ⟨?_, fun n hn => ?_, fun v hv => ?_, hr.root, fun n c hc => ?_, fun n v hv => ?_⟩
  · rw [hr.nodes.handles, hr.values.handles] at hnodup
    exact ((List.reverse_perm _).append (List.reverse_perm _)).nodup_iff.mp hnodup
  · obtain ⟨record, hmem, hnode⟩ := hr.nodes.exists_mem hn
    refine ⟨CellMap.get?_eq_none fun hv => ?_, record, CellMap.get?_of_mem hkeys hmem, hnode⟩
    exact hapart _ (List.mem_map.mpr ⟨_, hmem, rfl⟩) _ hv rfl
  · obtain ⟨record, hmem, hvalue⟩ := hr.values.exists_mem hv
    refine ⟨CellMap.get?_eq_none fun hk => ?_, record, CellMap.get?_of_mem hvalues hmem, hvalue⟩
    exact hapart _ hk _ (List.mem_map.mpr ⟨_, hmem, rfl⟩) rfl
  · obtain ⟨e, he, hmem⟩ := List.mem_flatMap.mp (mem_listed _ hc)
    exact (hr.listed e he).1 c hmem
  · obtain ⟨e, he, hmem⟩ := exists_mem_values hv
    exact (hr.listed e he).2 v hmem

/-! ## Scripted hives -/

variable {steps : List Step}

/-- A key that is given a name alone is given no negative length. -/
theorem measured_named (name : String) : NewKey.Measured { name := some name } :=
  nofun

theorem housed_build {root : MemoryHive} (hr : root.Housed)
    (hsteps : ∀ step ∈ steps, step.Adds NewKey.Measured NewValue.Unplaced) :
    (build root steps).hive.Housed :=
  Site.build_of (P := fun s => s.hive.Housed) (fun _ _ => Site.housed_change) measured_named hr
    hsteps

/-- **Cells, handles and byte runs of scripted hives.** Where a script gives no negative lengths and
puts no payload elsewhere, cells lie one behind the other, everything that is built has a handle of
its own, and each byte run that is told lies in the cell of what it is told of; so no two runs of
different records or payloads have a byte in common. -/
theorem cells_hold_runs {root : NewKey} (hroot : root.Measured) (lastModified : Option Int)
    (resumable : Bool) (hsteps : ∀ step ∈ steps, step.Adds NewKey.Measured NewValue.Unplaced) :
    let s := build (create root lastModified resumable) steps
    Tiled s.hive.allotted s.hive.nextOffset ∧ s.Identified ∧
      (∀ use offset length, s.hive.Reports use offset length →
        ∃ c ∈ s.hive.allotted, c.use = use ∧ c.Holds offset length) ∧
      ∀ use offset length use' offset' length', s.hive.Reports use offset length →
        s.hive.Reports use' offset' length' → use ≠ use' →
          offset + length ≤ offset' ∨ offset' + length' ≤ offset := by
  intro s
  have hh : s.hive.Housed := housed_build (housed_create hroot lastModified resumable) hsteps
  have hregistered : s.Registered :=
    Site.build_of_any (fun _ _ => Site.Registered.change) (registered_create root _ _) steps
  refine ⟨hh.tiled, hregistered.identified hh, fun _ _ _ => exists_cell_of_reports hh, ?_⟩
  intro use offset length use' offset' length' hr hr' hne
  obtain ⟨c, hc, rfl, hstart, -, hstop⟩ := exists_cell_of_reports hh hr
  obtain ⟨c', hc', rfl, hstart', -, hstop'⟩ := exists_cell_of_reports hh hr'
  have hapart := hh.tiled.apart.forall hc hc' (fun heq => hne (heq ▸ rfl))
  unfold Allotment.Apart at hapart
  omega

/-- A key of length 0, a chain, a short and a long payload, one whose length is stated otherwise,
and a key that is listed below itself. -/
def cellScript : List Step :=
  [.key 0 { name := none, storedName := [0xd8], length := some 0 }, .chain 1 2 "k",
    .value 1 { key := some "short", kind := .dword, data := .number (-1) },
    .value 1 { key := some "long", kind := .binary, data := .bytes [1, 2, 3, 4, 5] },
    .value 0 { key := none, kind := .binary, raw := some [7], length := some 4096 },
    .badChild 0 "bad subkey", .link 2 0, .lostCell 0]

theorem cells_hold_runs_script :
    let s := build (create { name := some "ROOT" } none true) cellScript
    s.hive.allotted.map (fun c => (c.use, c.start, c.size)) =
        [(.key 4312, 4312, 88), (.key 4224, 4224, 88), (.key 4216, 4216, 8), (.key 4128, 4128, 88),
          (.value 4488, 4488, 32), (.payload 4488, 4520, 4104), (.value 4440, 4440, 32),
          (.payload 4440, 4472, 16), (.value 4400, 4400, 40)] ∧
      s.hive.Reports (.key 4128) 4128 84 ∧ s.hive.Reports (.payload 4440) 4472 9 ∧
      Tiled s.hive.allotted s.hive.nextOffset ∧ s.Identified ∧
      (∀ use offset length, s.hive.Reports use offset length →
        ∃ c ∈ s.hive.allotted, c.use = use ∧ c.Holds offset length) ∧
      ∀ use offset length use' offset' length', s.hive.Reports use offset length →
        s.hive.Reports use' offset' length' → use ≠ use' →
          offset + length ≤ offset' ∨ offset' + length' ≤ offset := by
  refine ⟨by decide, .key (n := ⟨4128, none, []⟩) rfl,
    .payload (v := { handle := 4440, key := none, kind := .none, length := 0 }) rfl (by decide),
    cells_hold_runs (measured_named "ROOT") none true ?_⟩
  simp [cellScript, Step.Adds, NewKey.Measured, NewValue.Unplaced]

end MemoryHive

end HiveDump
