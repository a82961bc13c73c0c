import HiveDump.Proofs.Conversion.Losses
import HiveDump.Proofs.Image.Extent
import HiveDump.Proofs.Report.RunTags
import HiveDump.Proofs.Walk.Visited

/-!
# Byte runs of conversions

Every byte run that a conversion writes is one of a node or value that its walk has met, whether
the conversion succeeds or not. Those of an image tell where records and payloads lie in it.

Results:
* **`written_runs`**: the byte runs of any hive;
* **`runs_inside`**: those of an image.
-/

namespace HiveDump.Conversion

open Report Markup Markup.Tree Walk

variable {src : Source} {allowed : Int → Int → Prop}

/-! ## Conversions of any hive -/

theorem placing_prologue (src : Source) : Placing allowed (prologue src) := by
  refine (placing_write fun _ h => h.startDocument).bind fun _ => ?_
  refine (placing_startElement (by decide)).bind fun _ => ?_
  exact (placing_ask _ _).bind fun ticks => (placing_timeElement ticks).discard

theorem placing_body (skipping : Bool) (h : ∀ ev ∈ events src, Allows allowed (runsOf src ev)) :
    Placing allowed (body src skipping) := by
  rw [body_eq]
  exact (placing_prologue src).bind fun _ => placing_run skipping h

theorem placing_finish : Placing allowed finish :=
  placing_endElement.bind fun _ => (placing_write fun _ h => h.endDocument).bind fun _ =>
    placing_log _

theorem places_completion (tally : Tally) {c : Conversion} (hc : Places allowed c.session.output) :
    Places allowed (after (completion tally) c).2.session.output := by
  unfold completion
  rw [after_bind, after_report]
  rcases placing_finish c.session hc with ⟨_, s, hs, hplaces⟩ | ⟨fault, s, hs, hplaces⟩
  · rw [hs]
    exact hplaces
  · rw [hs]
    exact hplaces

/-- **A conversion only writes runs that are allowed**, whether it succeeds or not. -/
theorem convert_places (skipping : Bool) (h : ∀ ev ∈ events src, Allows allowed (runsOf src ev))
    {start : Conversion} (hstart : Places allowed start.session.output) :
    Places allowed (after (convert src skipping) start).2.session.output := by
  rcases placing_body skipping h start.session hstart with
    ⟨tally, s, hs, hplaces⟩ | ⟨fault, s, hs, hplaces⟩
  · rw [convert_of_ok hs, after_bind, after_close]
    cases src.close with
    | error fault => exact hplaces
    | ok _ => exact places_completion tally hplaces
  · obtain ⟨raised, c', hgiveUp, -, houtput, -⟩ := giveUp_spec src fault { start with session := s }
    rw [convert_of_error hs, hgiveUp, houtput]
    exact hplaces

/-- **The byte runs of a conversion** are those of the nodes and values that its walk meets. -/
theorem written_runs (src : Source) (config : Config) (device : Device) (policy : Policy)
    (trace : List LogLine) (skipping : Bool) (attributes : List Attribute)
    (h : .startTag "byte_run" attributes ∈ (run src skipping
      { session := opening config device policy trace }).2.session.output.tokens.toList) :
    ∃ offset length, attributes = runAttributes offset length ∧
      ∃ ev ∈ events src, ∃ runs, runsOf src ev = .ok runs ∧ (offset, length) ∈ runs := by
  let allowed (offset length : Int) : Prop :=
    ∃ ev ∈ events src, ∃ runs, runsOf src ev = .ok runs ∧ (offset, length) ∈ runs
  have hallowed : ∀ ev ∈ events src, Allows allowed (runsOf src ev) :=
    fun ev hev runs hruns run hrun => ⟨ev, hev, runs, hruns, hrun⟩
  have hstart : Places allowed (opening config device policy trace).output :=
    ⟨nofun, rfl, nofun⟩
  obtain ⟨w, hrun, -, htokens⟩ := run_eq src skipping
    { session := opening config device policy trace }
  rw [hrun] at h
  dsimp only at h
  rw [htokens] at h
  obtain ⟨offset, length, hrun, hattributes⟩ :=
    (convert_places skipping hallowed hstart).tagged attributes h
  exact ⟨offset, length, hattributes, hrun⟩

theorem mem_nodeRuns {n : Node} {runs : List (Int × Int)} {offset length : Int}
    (h : nodeRuns src n = .ok runs) (hrun : (offset, length) ∈ runs) :
    offset = n.handle ∧ src.nodeLength n = .ok length := by
  unfold nodeRuns at h
  cases hlength : src.nodeLength n with
  | error fault =>
    rw [hlength] at h
    cases h
  | ok told =>
    rw [hlength] at h
    cases h
    cases List.mem_singleton.mp hrun
    exact ⟨rfl, rfl⟩

/-- The run of a value's payload is shown only if the payload does not stand in the record. -/
theorem mem_valueRuns {v : Value} {runs : List (Int × Int)} {offset length : Int}
    (h : valueRuns src v = .ok runs) (hrun : (offset, length) ∈ runs) :
    (offset = v.handle ∧ src.valueLength v = .ok length) ∨
      src.dataCell v = .ok (offset, length) ∧ inlineLimit < length := by
  unfold valueRuns at h
  cases hlength : src.valueLength v with
  | error fault =>
    rw [hlength] at h
    cases h
  | ok told =>
    rw [hlength] at h
    cases hcell : src.dataCell v with
    | error fault =>
      rw [hcell] at h
      cases h
    | ok cell =>
      rw [hcell] at h
      cases h
      rcases List.mem_cons.mp hrun with hrun | hrun
      · cases hrun
        exact .inl ⟨rfl, rfl⟩
      · split at hrun
        next hlong =>
          cases List.mem_singleton.mp hrun
          exact .inr ⟨rfl, hlong⟩
        next => cases hrun

/-! ## Conversions of images -/

section Images

open Image

variable {path : String} {im : Image} {tracing : Bool} {h : HiveFile} {opened : List LogLine}
  {offset length : Int}

/-- The run of a node that was read is that of its record. -/
theorem node_of_event (ho : HiveFile.ofImage path im tracing = (.ok h, opened)) {n : Node}
    (hn : .enter n ∈ events h.source) : im.node n.handle = .ok n := by
  obtain ⟨m, hm, hat⟩ := metAt_of_recursive (recursive_events h.source) _ hn
  exact HiveFile.node_of_reachable ho (eq_of_metAt_enter hat ▸ hm)

theorem value_of_event {n : Node} {v : Value} (hv : .value n v ∈ events h.source) :
    h.image.value v.handle = .ok v := by
  obtain ⟨m, -, hat⟩ := metAt_of_recursive (recursive_events h.source) _ hv
  obtain ⟨cell, hcell⟩ := h.value_of_mem_values (mem_values_of_metAt hat)
  exact (readAt_of_value hcell).handle ▸ hcell

/-- The byte runs of what a walk through an image meets: of records of nodes and values, and of
payloads. Where the offset counts from the start of the image, a record that was read in full lies
in the image, and so does a payload, unless its cell names segments: then the run is as long as the
whole payload. -/
inductive RunOf (h : HiveFile) : (offset length : Int) → Prop
  | node {n : Node} {length : Int} (hmet : .enter n ∈ events h.source)
    (hlength : h.source.nodeLength n = .ok length)
    (hinside : 0 ≤ n.handle → h.image.Whole n.handle nodeFixedSize n.storedName length →
      h.image.Spans n.handle length) : RunOf h n.handle length
  | value {n : Node} {v : Value} {length : Int} (hmet : .value n v ∈ events h.source)
    (hlength : h.source.valueLength v = .ok length)
    (hinside : 0 ≤ v.handle → h.image.Whole v.handle valueFixedSize v.storedKey length →
      h.image.Spans v.handle length) : RunOf h v.handle length
  | payload {n : Node} {v : Value} {offset length : Int} (hmet : .value n v ∈ events h.source)
    (hcell : h.source.dataCell v = .ok (offset, length))
    (hinside : 0 ≤ offset → h.image.Spans offset length ∨
      h.image.NamesSegments offset (length - cellHeaderSize).toNat) : RunOf h offset length

/-- **The byte runs of an image** start in it and lie in it, each at a record or payload that the
walk has met, but for records that are cut off and payloads in segments. -/
theorem runs_inside (ho : HiveFile.ofImage path im tracing = (.ok h, opened)) (config : Config)
    (device : Device) (policy : Policy) (trace : List LogLine) (skipping : Bool)
    (attributes : List Attribute)
    (hwritten : .startTag "byte_run" attributes ∈ (run h.source skipping
      { session := opening config device policy trace }).2.session.output.tokens.toList) :
    ∃ offset length, attributes = runAttributes offset length ∧
      (0 ≤ offset → offset + cellHeaderSize ≤ im.size) ∧ RunOf h offset length := by
  obtain rfl := HiveFile.image_of_open ho
  obtain ⟨offset, length, rfl, ev, hev, runs, hruns, hrun⟩ :=
    written_runs h.source config device policy trace skipping attributes hwritten
  refine ⟨offset, length, rfl, ?_⟩
  cases ev with
  | enter n =>
    obtain ⟨rfl, hlength⟩ := mem_nodeRuns hruns hrun
    have hn := node_of_event ho hev
    obtain ⟨c, hc, -⟩ := node_eq_ok.mp hn
    obtain ⟨-, stop, hstored⟩ := storedName_of_node hn
    exact ⟨cell_fits hc, .node hev hlength fun hstart hwhole => (hstored ▸ hwhole).spans hstart⟩
  | value n v =>
    have hv := value_of_event hev
    rcases mem_valueRuns hruns hrun with ⟨rfl, hlength⟩ | ⟨hcell, hlong⟩
    · obtain ⟨c, hc⟩ := (readAt_of_value hv).sized
      obtain ⟨-, stop, hstored⟩ := storedKey_of_value hv
      exact ⟨cell_fits hc, .value hev hlength fun hstart hwhole => (hstored ▸ hwhole).spans hstart⟩
    · obtain ⟨⟨c, hc⟩, hspans⟩ := dataCell_spans hv hcell hlong
      exact ⟨cell_fits hc, .payload hev hcell hspans⟩
  | _ =>
    cases hruns
    cases hrun

end Images

/-! ## A payload in segments -/

section Spread

open Layout

/-- A value whose payload takes one byte more than one cell holds. -/
def spreadValue : ValueDraft :=
  ⟨.oneByte "n", 3, zeros 16345⟩

/-- The root with this value. -/
def spreadHead : KeyHead :=
  ⟨.oneByte "root", 0, true⟩

/-- Cells for a key with this value, in the order in which they are laid out: two segments, their
slots, the record that names these, the value, the slots of values, and the key. -/
def spreadCells : List Bytes :=
  [zeros 16344, zeros 1, [32, 16384].flatMap dword, segmentsRecord 2 16392,
    valueRecord spreadValue 16345 16408, [16424].flatMap dword,
    keyRecord spreadHead 0 noCell 1 16456]

/-- The image with these cells. -/
def spreadImage : Image :=
  imageOf 0 16464 (spreadCells.flatMap cellBytes)

theorem segmentsOf_spreadValue : segmentsOf spreadValue.payload = [zeros 16344, zeros 1] := by
  have hlength : spreadValue.payload.length = 16343 + 1 + 1 := length_zeros _
  have hfirst : spreadValue.payload.take segmentSize = zeros 16344 := List.take_replicate
  have hrest : spreadValue.payload.drop segmentSize = zeros 1 := List.drop_replicate
  have hsecond : (zeros 1).take segmentSize = zeros 1 := List.take_replicate
  have hend : (zeros 1).drop segmentSize = [] := List.drop_replicate
  rw [segmentsOf, hlength, piecesOf_of_ne_nil (List.ne_nil_of_length_pos (by omega)), hfirst, hrest,
    piecesOf_of_ne_nil (show zeros 1 ≠ [] from List.cons_ne_nil 0 []), hsecond, hend, piecesOf_nil]

theorem lengths_spreadCells : spreadCells.map List.length = [16344, 1, 8, 8, 21, 4, 80] := by
  simp only [spreadCells, List.map_cons, List.map_nil, length_zeros, length_flatMap_dword,
    length_segmentsRecord, length_valueRecord, length_keyRecord]
  rfl

theorem cellAt_spreadImage {i : Nat} (hi : i < 7) :
    CellAt spreadImage (binHeaderSize + room ([16344, 1, 8, 8, 21, 4, 80].take i))
      spreadCells[i] := by
  have hbin : ∀ i < 7, binHeaderSize + room ([16344, 1, 8, 8, 21, 4, 80].take i) < 2 ^ 32 := by
    decide
  exact cellAt_imageOf 0 16464 lengths_spreadCells hi (hbin i hi) (by decide)

theorem cellAt_spreadKey : CellAt spreadImage 16464 (keyRecord spreadHead 0 noCell 1 16456) :=
  cellAt_spreadImage (i := 6) (by decide)

theorem cellAt_spreadValue : CellAt spreadImage 16424 (valueRecord spreadValue 16345 16408) :=
  cellAt_spreadImage (i := 4) (by decide)

theorem size_spreadImage : spreadImage.size = 24576 := by
  rw [spreadImage, size_imageOf, length_flatMap_cellBytes, lengths_spreadCells]
  decide

/-- The key with its value stands in the image. -/
theorem stands_spreadImage :
    (Key.key 16464 spreadHead [(16424, spreadValue)] none).Stands spreadImage := by
  refine ⟨⟨16456, .inr (cellAt_spreadImage (i := 5) (by decide)), cellAt_spreadKey⟩, ?_, by decide⟩
  intro p hp
  rw [List.mem_singleton.mp hp]
  refine ⟨16345, 16408, ?_, cellAt_spreadValue⟩
  have hlength : spreadValue.payload.length = 16345 := length_zeros _
  have hsegments : List.Forall₂ (CellAt spreadImage) [32, 16384]
      (segmentsOf spreadValue.payload) := by
    rw [segmentsOf_spreadValue]
    exact .cons (cellAt_spreadImage (i := 0) (by decide))
      (.cons (cellAt_spreadImage (i := 1) (by decide)) .nil)
  rw [← hlength]
  exact .segmented (by rw [hlength]; decide) hsegments (cellAt_spreadImage (i := 2) (by decide))
    (cellAt_spreadImage (i := 3) (by decide))

theorem fits_spreadValue : spreadValue.Fits := by
  refine ⟨by decide, by decide, ?_, ?_, by decide, by decide⟩
  · exact Nat.lt_of_le_of_lt (Nat.le_of_eq (length_zeros _)) (by decide)
  · rw [segmentsOf_spreadValue]
    decide

theorem fits_spreadImage : (Key.key 16464 spreadHead [(16424, spreadValue)] none).Fits :=
  ⟨by decide, List.forall_mem_singleton.mpr fits_spreadValue⟩

theorem headed_spreadImage : Headed spreadImage 16464 :=
  headed_imageOf 0 _ (by decide)

/-- The hive in this image as a source. -/
def spreadSource : Source :=
  sourceOf "hive" spreadImage false 16464 spreadHead

theorem open_spreadImage : ∃ h trace, HiveFile.ofImage "hive" spreadImage false = (.ok h, trace) ∧
    h.source = spreadSource := by
  obtain ⟨trace, ho⟩ := ofImage_eq headed_spreadImage (by decide) cellAt_spreadKey "hive" false
  exact ⟨_, trace, ho, rfl⟩

theorem entryAt_of_ok {α : Type} (list : EntryList) {read : Int → Except Fault α}
    {lines : α → List LogLine} {offset : Int} {a : α} (h : read offset = .ok a)
    (hlines : lines a = []) : HiveFile.entryAt list read lines offset = { outcome := .ok a } := by
  unfold HiveFile.entryAt
  rw [h]
  dsimp only
  rw [hlines]

theorem valueTrace_spreadValue {v : Value} (h : IsValue 16424 spreadValue v) :
    HiveFile.valueTrace "hive" false v = [] := by
  obtain ⟨data, hdata, -, hdecoded⟩ := h.decoded
  have hbytes (raw : Bytes) : decodePayload (place 16424) (Kind.ofId 3) raw =
      .ok (some (.bytes raw)) := rfl
  rw [h.kind] at hdata
  have hdata := Except.ok.inj ((hbytes spreadValue.payload).symm.trans hdata)
  unfold HiveFile.valueTrace
  rw [hdecoded, ← hdata]
  rfl

/-- A walk through this image meets the key and its value. -/
theorem events_spreadSource : ∃ v, IsValue 16424 spreadValue v ∧
    spreadImage.value (place 16424) = .ok v ∧ events spreadSource =
      [.enter (nodeOf 16464 spreadHead), .value (nodeOf 16464 spreadHead) v,
        .leave (nodeOf 16464 spreadHead)] := by
  have hb := headed_spreadImage.binned
  obtain ⟨v, hv, hsame⟩ : ∃ v, spreadImage.value (place 16424) = .ok v ∧
      IsValue 16424 spreadValue v :=
    Layout.value_eq hb fits_spreadValue (stands_spreadImage.keyAt.values _ List.mem_cons_self)
  have hvalues : spreadSource.values (nodeOf 16464 spreadHead) = .ok [{ outcome := .ok v }] := by
    rw [← entryAt_of_ok .values hv (valueTrace_spreadValue hsame)]
    exact values_of_stands hb stands_spreadImage
  have hchildren : Listing.entries (spreadSource.children spreadSource.root) = [] :=
    entries_children hb stands_spreadImage fits_spreadImage
  have hroot : spreadSource.root = nodeOf 16464 spreadHead := rfl
  refine ⟨v, hsame, hv, ?_⟩
  rw [events_of_childless hchildren, hroot, around, enterEvents, valueEvents, hvalues]
  rfl

theorem nodeRuns_spreadSource :
    nodeRuns spreadSource (nodeOf 16464 spreadHead) = .ok [(20560, 84)] := by
  have hplace : (place 16464 : Int) = 20560 := place_eq 16464
  rw [← hplace]
  exact nodeRuns_sourceOf cellAt_spreadKey (by decide)

theorem valueRuns_spreadSource {v : Value} (h : IsValue 16424 spreadValue v) :
    valueRuns spreadSource v = .ok [(20520, 25), (20504, 16349)] := by
  have hplace : (place 16424 : Int) = 20520 := place_eq 16424
  have hstart : (place 16408 : Int) = 20504 := place_eq 16408
  rw [← hplace, ← hstart]
  exact valueRuns_sourceOf headed_spreadImage.binned cellAt_spreadValue fits_spreadValue.name
    (by decide) (by decide) (by decide) h.handle

/-- The element of the key, with what its value shows. -/
def spreadTree (attributes marks : List Attribute) (times texts : List Tree) : Tree :=
  .element "node" attributes (times ++ [runsTree [(20560, 84)]] ++
    [.element "value" marks (texts ++ [runsTree [(20520, 25), (20504, 16349)]])] ++ [])

/-- A walk through this image writes this element. -/
theorem contributes_spreadSource : ∃ given change attributes marks times texts,
    Contributes "utf-8" spreadSource false (events spreadSource) given change
      fun _ => [spreadTree attributes marks times texts] := by
  obtain ⟨v, hsame, hv, hevents⟩ := events_spreadSource
  obtain ⟨-, -, hsound⟩ := Image.value_eq_ok hv
  obtain ⟨shown, hshown⟩ := exists_valueShown hsound
  have hstamp : spreadSource.timestamp (nodeOf 16464 spreadHead) = .ok spreadHead.time? :=
    nodeTimestamp_eq cellAt_spreadKey (by decide)
  have hnode := nodeRuns_spreadSource
  have hvalue := valueRuns_spreadSource hsame
  have hnodeLeft : (nodeRunsLeft spreadSource (nodeOf 16464 spreadHead)).2 =
      [runsTree [(20560, 84)]] := by
    unfold nodeRunsLeft
    rw [hnode]
    rfl
  have hfront (p : Policy) : nodeFront p spreadSource (nodeOf 16464 spreadHead) =
      timeShown spreadHead.time? ++ [runsTree [(20560, 84)]] := by
    rw [nodeFront, hnodeLeft, stampUnder, hstamp]
  have hvalueLeft : (valueRunsLeft spreadSource v).2 =
      [runsTree [(20520, 25), (20504, 16349)]] := by
    unfold valueRunsLeft
    rw [hvalue]
    rfl
  have hvalues : Contributes "utf-8" spreadSource false [.value (nodeOf 16464 spreadHead) v] _ _ _ :=
    fun _ hroot =>
      passes_value (outer_ne_nil_of_rooted hroot) hshown (survives_of_ok hvalue)
  have hall := contributes_around (survives_of_ok hstamp) (survives_of_ok hnode) hvalues .nil
  rw [hevents]
  simp only [hfront, hvalueLeft] at hall
  exact ⟨_, _, _, _, _, _, hall⟩

theorem mem_runsTree {run : Int × Int} {runs : List (Int × Int)} (h : run ∈ runs) :
    .startTag "byte_run" (runAttributes run.1 run.2) ∈ (runsTree runs).tokens :=
  mem_tokens_of_inside <| mem_forestTokens
    (List.mem_map_of_mem (f := fun run => byteRunTree run.1 run.2) h) List.mem_cons_self

theorem mem_spreadTree (attributes marks : List Attribute) (times texts : List Tree) :
    ∀ run ∈ [(20560, 84), (20520, 25), (20504, 16349)],
      .startTag "byte_run" (runAttributes run.1 run.2) ∈
        (spreadTree attributes marks times texts).tokens := by
  intro run hrun
  refine mem_tokens_of_inside ?_
  rcases List.mem_cons.mp hrun with rfl | hrun
  · exact mem_forestTokens (t := runsTree [(20560, 84)]) (by simp)
      (mem_runsTree List.mem_cons_self)
  · refine mem_forestTokens
      (t := .element "value" marks (texts ++ [runsTree [(20520, 25), (20504, 16349)]])) (by simp) ?_
    exact mem_tokens_of_inside <| mem_forestTokens
      (t := runsTree [(20520, 25), (20504, 16349)]) (by simp) (mem_runsTree hrun)

/-- Its conversion writes the runs of the key, of the value and of its payload. -/
theorem writes_spreadRuns : ∃ h trace tally c,
    HiveFile.ofImage "hive" spreadImage false = (.ok h, trace) ∧
      run h.source false { session := opening {} .working .standard trace } = (.ok tally, c) ∧
      ∀ run ∈ [(20560, 84), (20520, 25), (20504, 16349)],
        .startTag "byte_run" (runAttributes run.1 run.2) ∈ c.session.output.tokens.toList := by
  obtain ⟨h, trace, ho, hsource⟩ := open_spreadImage
  obtain ⟨ticks, hlast⟩ : ∃ ticks, spreadSource.lastModified = .ok ticks :=
    exists_lastModified headed_spreadImage
  obtain ⟨given, change, attributes, marks, times, texts, hadds⟩ := contributes_spreadSource
  have hp := Policy.neverRaises_standard
  obtain ⟨w, ds, hbody, hstands⟩ := body_of_passes (s := opening {} .working .standard trace)
    Writer.usable_utf8 hlast rfl hp hadds
  obtain ⟨c, hafter, -, -, htokens⟩ := convert_of_body hbody (hp.after given) rfl hstands
  obtain ⟨w', hrun, -, hsame⟩ := run_eq spreadSource false
    { session := opening {} .working .standard trace }
  rw [hafter] at hrun hsame
  refine ⟨h, trace, _, _, ho, hsource ▸ hrun, fun run hmem => ?_⟩
  change _ ∈ w'.tokens.toList
  rw [hsame, htokens]
  have hwritten := mem_spreadTree attributes marks times texts run hmem
  exact List.mem_cons_of_mem _ (mem_tokens_of_inside (mem_forestTokens
    (List.mem_append_right _ List.mem_cons_self) hwritten))

theorem runs_inside_spreadImage : ∃ h trace,
    HiveFile.ofImage "hive" spreadImage false = (.ok h, trace) ∧
      .startTag "byte_run" (runAttributes 20520 25) ∈ (run h.source false
        { session := opening {} .working .standard trace }).2.session.output.tokens.toList ∧
      ∃ offset length, runAttributes 20520 25 = runAttributes offset length ∧
        (0 ≤ offset → offset + cellHeaderSize ≤ spreadImage.size) ∧ RunOf h offset length := by
  obtain ⟨h, trace, tally, c, ho, hrun, hwritten⟩ := writes_spreadRuns
  have hvalue : .startTag "byte_run" (runAttributes 20520 25) ∈ (run h.source false
      { session := opening {} .working .standard trace }).2.session.output.tokens.toList := by
    rw [hrun]
    exact hwritten (20520, 25) (.tail _ (.head _))
  exact ⟨h, trace, ho, hvalue, runs_inside ho {} .working .standard trace false _ hvalue⟩

/-- The run of this payload goes on behind the end of the image, although nothing of the image is
cut off. -/
theorem run_outside_spreadImage : ∃ h trace tally c,
    HiveFile.ofImage "hive" spreadImage false = (.ok h, trace) ∧
      run h.source false { session := opening {} .working .standard trace } = (.ok tally, c) ∧
      .startTag "byte_run" (runAttributes 20504 16349) ∈ c.session.output.tokens.toList ∧
      spreadImage.size = 24576 ∧ ¬spreadImage.Spans 20504 16349 := by
  obtain ⟨h, trace, tally, c, ho, hrun, hwritten⟩ := writes_spreadRuns
  have hmem : (20504, 16349) ∈ [((20560 : Int), (84 : Int)), (20520, 25), (20504, 16349)] :=
    .tail _ (.tail _ (.head _))
  refine ⟨h, trace, tally, c, ho, hrun, hwritten _ hmem, size_spreadImage, ?_⟩
  rintro ⟨-, -, hstop⟩
  rw [size_spreadImage] at hstop
  omega

end Spread

end HiveDump.Conversion
