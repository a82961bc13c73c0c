import HiveDump.Proofs.Image.FreeCells
import HiveDump.Proofs.Image.Opening
import HiveDump.Proofs.Walk.Skipped

/-!
# Walks through images that skip

Which images a walk that skips comes through, with a calm visitor and a policy that never raises:
those without a node in a free cell. Wherever else an image is damaged, the walk counts and submits
what it cannot read, and goes on.

Results:
* **`skipping_run_iff`**: the exact condition, what was skipped if it holds, and the fault if not.
-/

namespace HiveDump.HiveFile

open Walk HiveDump.Action

variable {δ : Type} {path : String} {im : Image} {tracing : Bool} {h : HiveFile}
  {trace : List LogLine} {n : Node} {fault : Fault}

theorem failed_of_mem_entryEvents {α : Type} {l : Listing α} {list : EntryList} {e : Entry α}
    (hl : ¬ im.FreeAt n.handle → MalformedOnly l)
    (hfree : im.FreeAt n.handle → l = .error (.noRecord .node n.handle none))
    (he : e ∈ Listing.entries l) (hev : Event.failed fault ∈ entryEvents list n e) :
    im.FreeAt n.handle ∧ fault = .noRecord .node n.handle none := by
  by_cases hf : im.FreeAt n.handle
  · rw [hfree hf] at he
    rw [List.mem_singleton.mp he] at hev
    have hnot : (Fault.noRecord .node n.handle none).isMalformed = false := by
      simp [Fault.isMalformed, Fault.kind]
    simp only [entryEvents, faultEvent, hnot, List.map_nil, List.nil_append,
      List.mem_singleton, Bool.false_eq_true, if_false, Event.failed.injEq] at hev
    exact ⟨hf, hev⟩
  · exact absurd (isFailed_of_mem_entryEvents (hl hf) he hev) (by simp [Event.isFailed])

/-- In an opened image a walk that skips is ended by nodes in free cells alone. -/
theorem failed_noRecord (ho : ofImage path im tracing = (.ok h, trace))
    (hf : Event.failed fault ∈ events h.source) :
    ∃ n, h.source.Reachable n ∧ im.FreeAt n.handle ∧ fault = .noRecord .node n.handle none := by
  have him := image_of_open ho
  obtain ⟨m, hm, hat⟩ := metAt_of_recursive (recursive_events h.source) _ hf
  have hlists : ¬ im.FreeAt m.handle →
      MalformedOnly (h.children m) ∧ MalformedOnly (h.values m) := by
    intro hf
    obtain ⟨record, hr⟩ := Image.recordOfHandle_of_node (node_of_reachable ho hm) hf
    exact malformedOnly_of_record (him ▸ hr)
  have hfree : im.FreeAt m.handle → h.children m = .error (.noRecord .node m.handle none) ∧
      h.values m = .error (.noRecord .node m.handle none) :=
    fun hf => lists_of_free (him ▸ hf)
  cases hat with
  | value he hev =>
    rcases List.mem_append.mp hev with hev | hev
    · exact ⟨m, hm, failed_of_mem_entryEvents (fun hf => (hlists hf).2)
        (fun hf => (hfree hf).2) he hev⟩
    · obtain ⟨w, -, hw⟩ := Option.map_eq_some_iff.mp (Option.mem_toList.mp hev)
      cases hw
  | subkey he hev =>
    exact ⟨m, hm, failed_of_mem_entryEvents (fun hf => (hlists hf).1)
      (fun hf => (hfree hf).1) he hev⟩

/-- A walk meets every node in a free cell that it can come to. -/
theorem exists_failed (ho : ofImage path im tracing = (.ok h, trace)) (hn : h.source.Reachable n)
    (hf : im.FreeAt n.handle) : ∃ ev ∈ events h.source, ev.isFailed = true := by
  obtain ⟨after, hcov⟩ := covers_of_reachable (fun _ _ hab => children_congr hab)
    (recursive_events h.source)
  obtain ⟨m, -, hm, -, hrest⟩ := hcov n hn
  have hl : h.children m = .error (.noRecord .node m.handle none) := by
    refine (lists_of_free ?_).1
    rw [image_of_open ho, hm]
    exact hf
  have he : (⟨.error (.noRecord .node m.handle none), []⟩ : Entry Node) ∈
      Listing.entries (h.source.children m) := by
    change _ ∈ Listing.entries (h.children m)
    rw [hl]
    exact List.mem_singleton.mpr rfl
  have hnot : (Fault.noRecord .node m.handle none).isMalformed = false := by
    simp [Fault.isMalformed, Fault.kind]
  refine ⟨.failed (.noRecord .node m.handle none), (hrest _ he).1 _ ?_, rfl⟩
  simp [entryEvents, faultEvent, hnot]

/-- A walk that skips fails in an image with a node in a free cell. -/
theorem skipping_run_error (ho : ofImage path im tracing = (.ok h, trace))
    (hn : h.source.Reachable n) (hf : im.FreeAt n.handle) {v : Visitor δ} (hv : v.Calm)
    {s : Session δ} (hp : s.policy.NeverRaises) :
    ∃ m, h.source.Reachable m ∧ im.FreeAt m.handle ∧
      (perform (run h.source true v) s).1 = .error (.noRecord .node m.handle none) := by
  obtain ⟨fault, hmem, herr⟩ := run_of_failed hv hp (exists_failed ho hn hf)
  obtain ⟨m, hm, hfree, rfl⟩ := failed_noRecord ho hmem
  exact ⟨m, hm, hfree, herr⟩

/-- **A walk that skips comes through an opened image exactly if no node it can come to lies in a
free cell.** What it skipped was counted and submitted; if it fails, then at such a node. -/
theorem skipping_run_iff (ho : ofImage path im tracing = (.ok h, trace)) {v : Visitor δ}
    (hv : v.Calm) {s : Session δ} (hp : s.policy.NeverRaises) :
    ((∃ tally, (perform (run h.source true v) s).1 = .ok tally) ↔
      ∀ n, h.source.Reachable n → ¬ im.FreeAt n.handle) ∧
    (∀ tally t, perform (run h.source true v) s = (.ok tally, t) →
      ∃ evs, Recursive h.source evs ∧
        ((v.Keeps fun s => s.tally.skipped) →
          tally.skipped = s.tally.skipped + evs.countP Event.isMalformed) ∧
        ((v.Keeps fun s => s.policy) →
          t.policy = s.policy.after (evs.filterMap Event.submission?))) ∧
    ∀ fault, (perform (run h.source true v) s).1 = .error fault →
      ∃ n, h.source.Reachable n ∧ im.FreeAt n.handle ∧ fault = .noRecord .node n.handle none := by
  have hok : (∀ n, h.source.Reachable n → ¬ im.FreeAt n.handle) →
      ∃ tally, (perform (run h.source true v) s).1 = .ok tally :=
    fun hf => (firesAs_events ((onlyMalformed_iff ho).mpr hf) hv hp).skipping.1
  refine ⟨⟨?_, hok⟩, ?_, ?_⟩
  · rintro ⟨tally, ht⟩ n hn hf
    obtain ⟨m, -, -, herr⟩ := skipping_run_error ho hn hf hv hp
    rw [ht] at herr
    cases herr
  · intro tally t ht
    obtain ⟨u, hu, rfl, hpolicy⟩ := forM_of_run_ok ht
    refine ⟨events h.source, recursive_events _, fun hk => skipped_of_forM hk hu, fun hk => ?_⟩
    rw [hpolicy]
    exact policy_of_forM hk hu
  · intro fault herr
    by_cases hf : ∀ n, h.source.Reachable n → ¬ im.FreeAt n.handle
    · obtain ⟨tally, ht⟩ := hok hf
      rw [ht] at herr
      cases herr
    · obtain ⟨n, hn⟩ := Classical.not_forall.mp hf
      obtain ⟨hreach, hfree⟩ := Classical.not_imp.mp hn
      obtain ⟨m, hm, hmf, herr'⟩ := skipping_run_error ho hreach (Classical.not_not.mp hfree) hv hp
      rw [herr] at herr'
      cases herr'
      exact ⟨m, hm, hmf, rfl⟩

/-! ## A key in a free cell -/

section Lost

open Layout

/-- A key whose cell was given back: its size is stored as that of a free cell. -/
def lostKey : Bytes :=
  dword 88 ++ keyRecord ⟨.oneByte "a", 0, false⟩ 0 noCell 0 noCell ++ zeros 7

/-- A list that still names that key. -/
def lostList : KeyList Nat :=
  .keys 120 .index [.key 32 ⟨.oneByte "a", 0, false⟩ [] none]

/-- The root that has this list. -/
def lostRoot : KeyHead :=
  ⟨.oneByte "r", 0, true⟩

/-- An image with a subkey in a free cell. -/
def lostImage : Image :=
  imageOf 0 136 (lostKey ++ cellBytes lostList.bytes ++
    cellBytes (keyRecord lostRoot 1 120 0 noCell))

theorem length_lostKey : lostKey.length = 88 := by
  rw [lostKey, List.length_append, List.length_append, length_keyRecord]
  rfl

theorem length_lostList : (cellBytes lostList.bytes).length = 16 := rfl

theorem cellAt_lostList : CellAt lostImage 120 lostList.bytes := by
  refine ⟨?_, by decide, by decide⟩
  have hh := imageOf_holds 0 136 lostKey (cellBytes lostList.bytes)
    (cellBytes (keyRecord lostRoot 1 120 0 noCell))
  rwa [length_lostKey] at hh

theorem cellAt_lostRoot : CellAt lostImage 136 (keyRecord lostRoot 1 120 0 noCell) := by
  refine ⟨?_, by decide, ?_⟩
  · have hh := imageOf_holds 0 136 (lostKey ++ cellBytes lostList.bytes)
      (cellBytes (keyRecord lostRoot 1 120 0 noCell)) []
    rwa [List.append_nil, List.length_append, length_lostKey, length_lostList] at hh
  · rw [length_keyRecord]
    decide

theorem holds_lostKey : lostImage.Holds (place 32) lostKey := by
  have hh := imageOf_holds 0 136 [] lostKey
    (cellBytes lostList.bytes ++ cellBytes (keyRecord lostRoot 1 120 0 noCell))
  rwa [List.nil_append, ← List.append_assoc] at hh

theorem cell_lostKey : lostImage.cell (place 32 : Int) = .ok ⟨place 32, 88⟩ := by
  have hh := holds_lostKey
  rw [lostKey] at hh
  have hn := hh.left.left.number
  rw [length_dword, littleEndian_dword (by decide)] at hn
  exact Image.cell_eq_ok.mpr ⟨88, hn, rfl⟩

theorem headed_lostImage : Headed lostImage 136 :=
  headed_imageOf 0 _ (by decide)

theorem open_lostImage : ∃ trace, ofImage "hive" lostImage false =
    (.ok (opened "hive" lostImage false 136 lostRoot), trace) :=
  ofImage_eq headed_lostImage (by decide)
    cellAt_lostRoot _ _

/-- The list of the root names the lost key, which is read and found in a free cell. -/
theorem reachable_lostKey :
    (opened "hive" lostImage false 136 lostRoot).source.Reachable
        (nodeOf 32 ⟨.oneByte "a", 0, false⟩) ∧
      lostImage.FreeAt (place 32) := by
  have hlist : ∀ list, some lostList = some list → ListAt lostImage list := by
    intro list h
    cases h
    exact ⟨⟨cellAt_lostList, by decide, by simp [Key.cell]⟩, by decide, by decide⟩
  have hroot : CellAt lostImage 136 (keyRecord lostRoot (subkeysOf (some lostList)).length
      (listDistance (some lostList)) 0 noCell) := cellAt_lostRoot
  have hchildren := children_eq "hive" false 136 lostRoot headed_lostImage.binned hlist (by decide)
    hroot
  have hnode : lostImage.node (place 32 : Int) =
      .ok (nodeOf 32 ⟨.oneByte "a", 0, false⟩) := by
    have hh := holds_lostKey
    rw [lostKey] at hh
    have hrecord := hh.left.right
    rw [length_dword] at hrecord
    exact node_of_holds cell_lostKey hrecord (by decide)
  refine ⟨.child .root (Listing.mem_good.mpr ⟨_, hchildren, _, List.mem_cons_self, ?_⟩),
    ⟨_, cell_lostKey, rfl⟩⟩
  refine outcome_entryAt.mpr ?_
  change (lostImage.node (place 32 : Int)).mapError Fault.record = _
  rw [hnode]
  rfl

/-- A walk that skips does not come through this image, although it opens. -/
theorem skipping_run_lostImage :
    ∃ h trace, ofImage "hive" lostImage false = (.ok h, trace) ∧
      silent.Calm ∧ Policy.standard.NeverRaises ∧
      ∃ fault, fault.kind = .invalidHandle ∧
        (perform (run h.source true silent) ⟨(), Policy.standard, {}, #[]⟩).1 = .error fault := by
  obtain ⟨trace, ho⟩ := open_lostImage
  obtain ⟨hreach, hfree⟩ := reachable_lostKey
  obtain ⟨m, -, -, herr⟩ := skipping_run_error (s := ⟨(), Policy.standard, {}, #[]⟩) ho hreach hfree
    calm_silent Policy.neverRaises_standard
  exact ⟨_, trace, ho, calm_silent, Policy.neverRaises_standard, _, rfl, herr⟩

theorem skipping_run_iff_lostImage :
    ∃ h trace, ofImage "hive" lostImage false = (.ok h, trace) ∧
      silent.Calm ∧ Policy.standard.NeverRaises ∧
      ((∃ tally, (perform (run h.source true silent) ⟨(), Policy.standard, {}, #[]⟩).1 =
        .ok tally) ↔ ∀ n, h.source.Reachable n → ¬ lostImage.FreeAt n.handle) := by
  obtain ⟨trace, ho⟩ := open_lostImage
  exact ⟨_, trace, ho, calm_silent, Policy.neverRaises_standard,
    (skipping_run_iff (s := ⟨(), Policy.standard, {}, #[]⟩) ho calm_silent
      Policy.neverRaises_standard).1⟩

end Lost

end HiveDump.HiveFile
