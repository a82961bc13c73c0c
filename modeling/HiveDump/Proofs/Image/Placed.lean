import HiveDump.Proofs.Image.Opening
import HiveDump.Proofs.Walk.Callbacks

/-!
# Walking through a tree that was laid out

A tree with the distances of its cells stands in an image if each of its cells does
(`Key.Stands`), in whatever order they were laid out. If its numbers fit their fields and no two of
its keys share a cell, a walk through the image shows the tree and meets nothing malformed.

Results:
* `Key.leads`, `KeyList.leads`: entries lead to what is laid out below them, one step for each part
  of a tree;
* `recursive_of_stands`: the recursion through the whole tree;
* **`showsAs_of_stands`**: the image opens, and a walk shows the tree;
* `exists_lastModified`: when it was last written.
-/

namespace HiveDump.Layout

open Walk

variable {im : Image} {α : Type}

/-! ## Trees that fit and stand -/

mutual

/-- Whether all numbers of a tree fit their fields, and lists of lists nest no deeper than they
may. -/
def Key.Fits : Key α → Prop
  | .key _ head values none => head.Fits ∧ ∀ p ∈ values, p.2.Fits
  | .key _ head values (some list) =>
    head.Fits ∧ (∀ p ∈ values, p.2.Fits) ∧ list.depth ≤ maxListDepth ∧ list.Fits

/-- Whether a list fits, with the keys that it names. -/
def KeyList.Fits : KeyList α → Prop
  | .keys _ _ named => named.length < 2 ^ 16 ∧ fitAll named
  | .lists _ below => below.length < 2 ^ 16 ∧ fitBelow below

/-- Whether keys fit. -/
def fitAll : List (Key α) → Prop
  | [] => True
  | key :: keys => key.Fits ∧ fitAll keys

/-- Whether lists fit. -/
def fitBelow : List (KeyList α) → Prop
  | [] => True
  | list :: lists => list.Fits ∧ fitBelow lists

end

/-- Whether a key was laid out with its values in the cell at a distance. The count of its subkeys
is no number that means none. -/
structure KeyAt (im : Image) (distance : Nat) (head : KeyHead) (values : List (Nat × ValueDraft))
    (subkeys : Option (KeyList Nat)) : Prop where
  cell : ∃ slots, SlotsAt im slots (values.map (·.1)) ∧ CellAt im distance
    (keyRecord head (subkeysOf subkeys).length (listDistance subkeys) values.length slots)
  values : ∀ p ∈ values, ValueAt im p.1 p.2
  count : (subkeysOf subkeys).length < 0xFFFFFFFF

mutual

/-- Whether a tree stands in the image, the lists of each key in cells of their own. -/
def Key.Stands (im : Image) : Key Nat → Prop
  | .key cell head values none => KeyAt im cell head values none
  | .key cell head values (some list) => KeyAt im cell head values (some list) ∧
      (list.cell :: list.inner).Nodup ∧ list.Stands im

/-- Whether a list stands in the image, with the keys that it names. -/
def KeyList.Stands (im : Image) : KeyList Nat → Prop
  | .keys cell kind named => CellAt im cell (kind.record (named.map Key.cell)) ∧ standAll im named
  | .lists cell below => CellAt im cell (listsRecord (below.map KeyList.cell)) ∧
      standBelow im below

/-- Whether keys stand in the image. -/
def standAll (im : Image) : List (Key Nat) → Prop
  | [] => True
  | key :: keys => key.Stands im ∧ standAll im keys

/-- Whether lists stand in the image. -/
def standBelow (im : Image) : List (KeyList Nat) → Prop
  | [] => True
  | list :: lists => list.Stands im ∧ standBelow im lists

end

mutual

/-- The labels of a tree's keys, each key in front of those below it. -/
def Key.cells : Key α → List α
  | .key cell _ _ none => [cell]
  | .key cell _ _ (some list) => cell :: list.cells

/-- The labels of the keys below a list. -/
def KeyList.cells : KeyList α → List α
  | .keys _ _ named => cellsAll named
  | .lists _ below => cellsBelow below

/-- The labels of keys and of those below them. -/
def cellsAll : List (Key α) → List α
  | [] => []
  | key :: keys => key.cells ++ cellsAll keys

/-- The labels of the keys below lists. -/
def cellsBelow : List (KeyList α) → List α
  | [] => []
  | list :: lists => list.cells ++ cellsBelow lists

end

theorem Key.Stands.keyAt {cell : Nat} {head : KeyHead} {values : List (Nat × ValueDraft)}
    {subkeys : Option (KeyList Nat)} (h : (Key.key cell head values subkeys).Stands im) :
    KeyAt im cell head values subkeys := by
  cases subkeys with
  | none => exact h
  | some list => exact h.1

/-- The part of a key that is its own. -/
def Key.head : Key α → KeyHead
  | .key _ head _ _ => head

theorem Key.Stands.cell_lt : ∀ {key : Key Nat}, key.Stands im → key.cell < 2 ^ 32
  | .key _ _ _ _, h => by
    obtain ⟨slots, -, hc⟩ := h.keyAt.cell
    exact hc.distance_lt

theorem Key.Fits.own {cell : α} {head : KeyHead} {values : List (α × ValueDraft)}
    {subkeys : Option (KeyList α)} (h : (Key.key cell head values subkeys).Fits) :
    head.Fits ∧ ∀ p ∈ values, p.2.Fits := by
  cases subkeys with
  | none => exact h
  | some list => exact ⟨h.1, h.2.1⟩

theorem cell_lt_of_standAll : ∀ {keys : List (Key Nat)}, standAll im keys →
    ∀ key ∈ keys, key.cell < 2 ^ 32
  | [], _, key, hk => by cases hk
  | key :: keys, hs, other, ho => by
    rcases List.mem_cons.mp ho with rfl | ho
    · exact hs.1.cell_lt
    · exact cell_lt_of_standAll hs.2 other ho

mutual

/-- A list that stands and fits can be flattened. -/
theorem listed_of_stands : ∀ {list : KeyList Nat}, list.Stands im → list.Fits → list.Listed im
  | .keys _ _ _, hs, hf => ⟨hs.1, hf.1, cell_lt_of_standAll hs.2⟩
  | .lists _ _, hs, hf => ⟨hs.1, hf.1, listedAll_of_stands hs.2 hf.2⟩

theorem listedAll_of_stands : ∀ {lists : List (KeyList Nat)}, standBelow im lists →
    fitBelow lists → listedAll im lists
  | [], _, _ => trivial
  | _ :: _, hs, hf => ⟨listed_of_stands hs.1 hf.1, listedAll_of_stands hs.2 hf.2⟩

end

theorem listAt_of_stands {cell : Nat} {head : KeyHead} {values : List (Nat × ValueDraft)}
    {subkeys : Option (KeyList Nat)} (hs : (Key.key cell head values subkeys).Stands im)
    (hf : (Key.key cell head values subkeys).Fits) :
    ∀ list, subkeys = some list → ListAt im list := by
  rintro list rfl
  exact ⟨listed_of_stands hs.2.2 hf.2.2.2, hf.2.2.1, hs.2.1⟩

/-! ## What events show -/

/-- Whether events show this of a source, and nothing in them is malformed or ends a walk. -/
structure Shows (src : Source) (evs : List Event) (seen : List Seen) : Prop where
  calls : (evs.filterMap Event.callback?).map (Callback.seenIn src) = seen.map .ok
  clean : ∀ ev ∈ evs, ev.isMalformed = false ∧ ev.isFailed = false

variable {src : Source}

theorem Shows.nil : Shows src [] [] :=
  ⟨rfl, by simp⟩

theorem Shows.append {evs evs' : List Event} {seen seen' : List Seen} (h : Shows src evs seen)
    (h' : Shows src evs' seen') : Shows src (evs ++ evs') (seen ++ seen') := by
  refine ⟨?_, fun ev hev => ?_⟩
  · rw [List.filterMap_append, List.map_append, h.calls, h'.calls, List.map_append]
  · rcases List.mem_append.mp hev with hev | hev
    · exact h.clean ev hev
    · exact h'.clean ev hev

/-- Reading a good entry shows nothing by itself. -/
theorem shows_entryEvents {β : Type} (list : EntryList) (n : Node) {e : Entry β} {a : β}
    (he : e.outcome = .ok a) : Shows src (entryEvents list n e) [] := by
  refine ⟨by rw [filterMap_entryEvents]; rfl, fun ev hev => ?_⟩
  simp only [entryEvents, he, List.append_nil, List.mem_map] at hev
  obtain ⟨line, -, rfl⟩ := hev
  exact ⟨rfl, rfl⟩

theorem shows_call {call : Callback} {ev : Event} {seen : Seen} (hc : ev.callback? = some call)
    (hs : call.seenIn src = .ok seen) (hm : ev.isMalformed = false) (hf : ev.isFailed = false) :
    Shows src [ev] [seen] := by
  refine ⟨by simp [hc, hs], fun ev' h => ?_⟩
  rw [List.mem_singleton.mp h]
  exact ⟨hm, hf⟩

/-! ## Nodes of an opened image -/

section Walking

variable {path : String} {tracing : Bool} {root : Nat} {rootHead : KeyHead}

/-- The source of an image that was opened. -/
def sourceOf (path : String) (im : Image) (tracing : Bool) (root : Nat) (rootHead : KeyHead) :
    Source :=
  (opened path im tracing root rootHead).source

theorem exists_lastModified (h : Headed im root) :
    ∃ ticks, (sourceOf path im tracing root rootHead).lastModified = .ok ticks := by
  obtain ⟨ticks, hticks⟩ := h.exists_timestamp
  exact ⟨ticks, Failing.mapError_eq_ok.mpr hticks⟩

/-- The entry of a list that names the key. -/
def keyEntry (path : String) (im : Image) (tracing : Bool) (key : Key Nat) : Entry Node :=
  HiveFile.entryAt .subkeys (fun c => (im.node c).mapError .record)
    (HiveFile.nodeTrace path tracing) (place key.cell)

theorem seenIn_nodeOf {cell : Nat} {head : KeyHead} {subkeyCount subkeys valueCount values : Nat}
    (hc : CellAt im cell (keyRecord head subkeyCount subkeys valueCount values))
    (hf : head.Fits) :
    (nodeOf cell head).seenIn (sourceOf path im tracing root rootHead) = .ok head.seen := by
  have ht : (sourceOf path im tracing root rootHead).timestamp (nodeOf cell head) =
      .ok head.time? := nodeTimestamp_eq hc hf
  rw [Node.seenIn, ht]
  rfl

/-- The values of a key are shown as they were laid out. -/
theorem shows_valueEntries (hb : Binned im) {head : KeyHead} {n : Node}
    (hn : n.seenIn src = .ok head.seen) :
    ∀ (values : List (Nat × ValueDraft)), (∀ p ∈ values, p.2.Fits) →
      (∀ p ∈ values, ValueAt im p.1 p.2) →
      Shows src ((((values.map (·.1)).map fun d => (place d : Int)).map
        (HiveFile.entryAt .values im.value (HiveFile.valueTrace path tracing))).flatMap fun e =>
          entryEvents .values n e ++ (e.good?.map (Event.value n)).toList)
        (valuesSeen head values)
  | [], _, _ => .nil
  | (d, v) :: values, hf, hv => by
    obtain ⟨w, hw, hsame⟩ := value_eq hb (hf _ List.mem_cons_self) (hv _ List.mem_cons_self)
    have hout : (HiveFile.entryAt .values im.value (HiveFile.valueTrace path tracing)
        (place d : Int)).outcome = .ok w := HiveFile.outcome_entryAt.mpr hw
    have hgood : (HiveFile.entryAt .values im.value (HiveFile.valueTrace path tracing)
        (place d : Int)).good? = some w := by
      rw [Entry.good?, hout]
    have hseen : w.seen = v.seen := by
      rw [Value.seen, ValueDraft.seen, hsame.key, hsame.storedKey, hsame.kind, hsame.raw]
    have hcall : Shows src [Event.value n w] [.value head.seen v.seen] := by
      refine shows_call rfl ?_ rfl rfl
      rw [Callback.seenIn, hn, hseen]
      rfl
    have hrest := shows_valueEntries hb hn values (fun p hp => hf p (List.mem_cons_of_mem _ hp))
      (fun p hp => hv p (List.mem_cons_of_mem _ hp))
    have hhere := (shows_entryEvents .values n hout).append hcall
    rw [List.map_cons, List.map_cons, List.map_cons, List.flatMap_cons, hgood]
    exact hhere.append hrest

/-! ## The recursion over laid out keys -/

/-- The nodes entered once keys in these cells have been entered one after the other. -/
def enteredBy : List Nat → (entered : List Int) → List Int
  | [], entered => entered
  | cell :: cells, entered => enteredBy cells (place cell :: entered)

theorem enteredBy_append (cells cells' : List Nat) (entered : List Int) :
    enteredBy (cells ++ cells') entered = enteredBy cells' (enteredBy cells entered) := by
  induction cells generalizing entered with
  | nil => rfl
  | cons cell cells ih => exact ih _

theorem mem_enteredBy {handle : Int} : ∀ {cells : List Nat} {entered : List Int},
    handle ∈ enteredBy cells entered ↔ handle ∈ entered ∨ ∃ d ∈ cells, handle = place d
  | [], entered => by simp [enteredBy]
  | cell :: cells, entered => by
    rw [enteredBy, mem_enteredBy, List.mem_cons]
    simp only [List.exists_mem_cons_iff]
    tauto

theorem place_inj {a b : Nat} (h : (place a : Int) = place b) : a = b := by
  unfold place at h
  omega

/-- Whether keys in these cells can be entered: none of them was, and none shares a cell with
another. -/
structure Enterable (cells : List Nat) (entered : List Int) : Prop where
  nodup : cells.Nodup
  fresh : ∀ d ∈ cells, (place d : Int) ∉ entered

variable {cells cells' : List Nat} {entered : List Int}

theorem Enterable.left (h : Enterable (cells ++ cells') entered) : Enterable cells entered :=
  ⟨(List.nodup_append.mp h.nodup).1, fun d hd => h.fresh d (List.mem_append_left _ hd)⟩

theorem Enterable.right (h : Enterable (cells ++ cells') entered) :
    Enterable cells' (enteredBy cells entered) := by
  obtain ⟨-, hnodup, hdisj⟩ := List.nodup_append.mp h.nodup
  refine ⟨hnodup, fun d hd hm => ?_⟩
  rcases mem_enteredBy.mp hm with hm | ⟨e, he, heq⟩
  · exact h.fresh d (List.mem_append_right _ hd) hm
  · exact hdisj e he d hd (place_inj heq).symm

/-- Whether reading these entries of a node enters keys in these cells, new ones all of them, and
shows this. -/
def Leads (src : Source) (entries : List (Entry Node)) (cells : List Nat) (seen : List Seen) :
    Prop :=
  ∀ (entered : List Int) (n : Node) (rest : List (Entry Node)) (behind : List Event)
    (after : List Int), Enterable cells entered →
    Inside src (enteredBy cells entered) n rest behind after →
    ∃ evs, Inside src entered n (entries ++ rest) (evs ++ behind) after ∧ Shows src evs seen

theorem Leads.nil : Leads src [] [] [] :=
  fun _ _ _ _ _ _ h => ⟨[], h, .nil⟩

theorem Leads.append {entries entries' : List (Entry Node)} {seen seen' : List Seen}
    (h : Leads src entries cells seen) (h' : Leads src entries' cells' seen') :
    Leads src (entries ++ entries') (cells ++ cells') (seen ++ seen') := by
  intro entered n rest behind after he hin
  rw [enteredBy_append] at hin
  obtain ⟨evs', hin', hshow'⟩ := h' _ n rest behind after he.right hin
  obtain ⟨evs, hin, hshow⟩ := h entered n _ _ after he.left hin'
  refine ⟨evs ++ evs', ?_, hshow.append hshow'⟩
  rwa [List.append_assoc, List.append_assoc]

/-- What is met in a node shows it, around what its subkeys show. -/
theorem shows_around {n : Node} {k : KeySeen} {inside : List Event} {values below : List Seen}
    (hn : n.seenIn src = .ok k) (hv : Shows src (valueEvents src n) values)
    (h : Shows src inside below) :
    Shows src (around src n inside) (.enter k :: values ++ below ++ [.leave k]) := by
  have henter : Shows src [Event.enter n] [.enter k] :=
    shows_call rfl (by rw [Callback.seenIn, hn]; rfl) rfl rfl
  have hleave : Shows src [Event.leave n] [.leave k] :=
    shows_call rfl (by rw [Callback.seenIn, hn]; rfl) rfl rfl
  exact ((henter.append hv).append h).append hleave

section Subkeys

variable {cell : Nat} {head : KeyHead} {values : List (Nat × ValueDraft)}
  {subkeys : Option (KeyList Nat)}

/-- The subkeys of a node are entries of the keys below its key. -/
theorem entries_children (hb : Binned im) (hs : (Key.key cell head values subkeys).Stands im)
    (hf : (Key.key cell head values subkeys).Fits) :
    Listing.entries ((sourceOf path im tracing root rootHead).children (nodeOf cell head)) =
      (subkeysOf subkeys).map (keyEntry path im tracing) := by
  obtain ⟨slots, -, hc⟩ := hs.keyAt.cell
  have hchildren : (sourceOf path im tracing root rootHead).children (nodeOf cell head) = _ :=
    children_eq path tracing root rootHead hb (listAt_of_stands hs hf) hs.keyAt.count hc
  rw [hchildren, cellsOf, List.map_map]
  rfl

/-- The values of a node are entries of those of its key. -/
theorem values_of_stands (hb : Binned im) (hs : (Key.key cell head values subkeys).Stands im) :
    (sourceOf path im tracing root rootHead).values (nodeOf cell head) =
      .ok (((values.map (·.1)).map fun d => (place d : Int)).map
        (HiveFile.entryAt .values im.value (HiveFile.valueTrace path tracing))) := by
  obtain ⟨slots, hslots, hc⟩ := hs.keyAt.cell
  have hlt : ∀ d ∈ values.map (·.1), d < 2 ^ 32 := by
    intro d hd
    obtain ⟨p, hp, rfl⟩ := List.mem_map.mp hd
    obtain ⟨length, start, -, hcell⟩ := hs.keyAt.values p hp
    exact hcell.distance_lt
  exact values_eq path tracing root rootHead hb hslots hlt (by rwa [List.length_map])

/-- The values of a node are shown as those of its key. -/
theorem shows_valueEvents (hb : Binned im) (hs : (Key.key cell head values subkeys).Stands im)
    (hf : (Key.key cell head values subkeys).Fits) :
    Shows (sourceOf path im tracing root rootHead)
      (valueEvents (sourceOf path im tracing root rootHead) (nodeOf cell head))
      (valuesSeen head values) := by
  obtain ⟨slots, -, hc⟩ := hs.keyAt.cell
  rw [valueEvents, values_of_stands hb hs]
  exact shows_valueEntries hb (seenIn_nodeOf hc hf.own.1) values hf.own.2 hs.keyAt.values

/-- A key is entered and shown, around the keys below it. -/
theorem leads_key (hb : Binned im) (hs : (Key.key cell head values subkeys).Stands im)
    (hf : (Key.key cell head values subkeys).Fits) {seen : List Seen}
    (hbelow : Leads (sourceOf path im tracing root rootHead)
      ((subkeysOf subkeys).map (keyEntry path im tracing)) cells seen) :
    Leads (sourceOf path im tracing root rootHead)
      [keyEntry path im tracing (.key cell head values subkeys)] (cell :: cells)
      (.enter head.seen :: valuesSeen head values ++ seen ++ [.leave head.seen]) := by
  obtain ⟨slots, -, hc⟩ := hs.keyAt.cell
  have hread : (im.node (place cell)).mapError Fault.record = .ok (nodeOf cell head) := by
    rw [node_eq hc hf.own.1]
    rfl
  have hout : (keyEntry path im tracing (.key cell head values subkeys)).outcome =
      .ok (nodeOf cell head) := HiveFile.outcome_entryAt.mpr hread
  have hgood : (keyEntry path im tracing (.key cell head values subkeys)).good? =
      some (nodeOf cell head) := by
    rw [Entry.good?, hout]
  intro entered n rest behind after he hin
  have hfresh : (nodeOf cell head).handle ∉ entered := he.fresh cell List.mem_cons_self
  have hinside : Enterable cells (enteredBy [cell] entered) := Enterable.right he
  obtain ⟨here, hhere, hshow⟩ := hbelow (place cell :: entered) (nodeOf cell head) [] [] _ hinside
    .nil
  rw [List.append_nil, List.append_nil, ← entries_children hb hs hf] at hhere
  refine ⟨entryEvents .subkeys n (keyEntry path im tracing (.key cell head values subkeys)) ++
    around _ (nodeOf cell head) here, .fresh hgood hfresh hhere hin, ?_⟩
  exact (shows_entryEvents .subkeys n hout).append
    (shows_around (seenIn_nodeOf hc hf.own.1) (shows_valueEvents hb hs hf) hshow)

end Subkeys

mutual

/-- A tree that stands and fits is entered and shown. -/
theorem Key.leads (hb : Binned im) : ∀ {key : Key Nat}, key.Stands im → key.Fits →
    Leads (sourceOf path im tracing root rootHead) [keyEntry path im tracing key] key.cells
      key.seen
  | .key cell head values none, hs, hf => by
    have h : Leads (sourceOf path im tracing root rootHead) _ _ _ := leads_key hb hs hf .nil
    rwa [List.append_nil] at h
  | .key _ _ _ (some _), hs, hf => leads_key hb hs hf (KeyList.leads hb hs.2.2 hf.2.2.2)

/-- So are the keys that a list names. -/
theorem KeyList.leads (hb : Binned im) : ∀ {list : KeyList Nat}, list.Stands im → list.Fits →
    Leads (sourceOf path im tracing root rootHead) (list.named.map (keyEntry path im tracing))
      list.cells list.seen
  | .keys _ _ _, hs, hf => leads_all hb hs.2 hf.2
  | .lists _ _, hs, hf => leads_below hb hs.2 hf.2

theorem leads_all (hb : Binned im) : ∀ {keys : List (Key Nat)}, standAll im keys → fitAll keys →
    Leads (sourceOf path im tracing root rootHead) (keys.map (keyEntry path im tracing))
      (cellsAll keys) (seenAll keys)
  | [], _, _ => .nil
  | _ :: _, hs, hf => (Key.leads hb hs.1 hf.1).append (leads_all hb hs.2 hf.2)

theorem leads_below (hb : Binned im) : ∀ {lists : List (KeyList Nat)}, standBelow im lists →
    fitBelow lists →
    Leads (sourceOf path im tracing root rootHead)
      ((namedAll lists).map (keyEntry path im tracing)) (cellsBelow lists) (seenBelow lists)
  | [], _, _ => .nil
  | list :: lists, hs, hf => by
    have h : Leads (sourceOf path im tracing root rootHead) _ _ _ :=
      (KeyList.leads hb hs.1 hf.1).append (leads_below hb hs.2 hf.2)
    rwa [← List.map_append] at h

end

end Walking

/-! ## Walks -/

/-- From the root everything below it is entered and shown. -/
theorem recursive_key (hb : Binned im) {cell : Nat} {head : KeyHead}
    {values : List (Nat × ValueDraft)} {subkeys : Option (KeyList Nat)}
    (hs : (Key.key cell head values subkeys).Stands im)
    (hf : (Key.key cell head values subkeys).Fits) (path : String) (tracing : Bool)
    {cells : List Nat} {seen : List Seen} (hn : (cell :: cells).Nodup)
    (hbelow : Leads (sourceOf path im tracing cell head)
      ((subkeysOf subkeys).map (keyEntry path im tracing)) cells seen) :
    ∃ evs, Recursive (sourceOf path im tracing cell head) evs ∧
      Shows (sourceOf path im tracing cell head) evs
        (.enter head.seen :: valuesSeen head values ++ seen ++ [.leave head.seen]) := by
  obtain ⟨hnot, hcells⟩ := List.nodup_cons.mp hn
  have henter : Enterable cells [(place cell : Int)] := by
    refine ⟨hcells, fun d hd hm => hnot ?_⟩
    rwa [← place_inj (List.mem_singleton.mp hm)]
  obtain ⟨slots, -, hc⟩ := hs.keyAt.cell
  obtain ⟨inside, hinside, hshow⟩ := hbelow _ (nodeOf cell head) [] [] _ henter .nil
  rw [List.append_nil, List.append_nil, ← entries_children hb hs hf] at hinside
  exact ⟨_, ⟨inside, _, hinside, rfl⟩,
    shows_around (seenIn_nodeOf hc hf.own.1) (shows_valueEvents hb hs hf) hshow⟩

theorem recursive_of_stands (hb : Binned im) (path : String) (tracing : Bool) :
    ∀ {root : Key Nat}, root.Stands im → root.Fits → root.cells.Nodup →
      ∃ evs, Recursive (sourceOf path im tracing root.cell root.head) evs ∧
        Shows (sourceOf path im tracing root.cell root.head) evs root.seen
  | .key cell head values none, hs, hf, hn => by
    have h := recursive_key hb hs hf path tracing hn Leads.nil
    rwa [List.append_nil] at h
  | .key _ _ _ (some _), hs, hf, hn =>
    recursive_key hb hs hf path tracing hn (KeyList.leads hb hs.2.2 hf.2.2.2)

/-- Whether an image can be opened, and every walk through it that does not skip comes to its end
and shows this, whoever is told, if neither they nor the policy end it. -/
def ShowsAs (im : Image) (seen : List Seen) : Prop :=
  ∀ (path : String) (tracing : Bool), ∃ hive trace,
    HiveFile.ofImage path im tracing = (.ok hive, trace) ∧
      ∀ {δ : Type} (v : Visitor δ) (s : Session δ), v.Calm → s.policy.NeverRaises →
        (∃ tally, ((run hive.source false v).perform s).1 = .ok tally) ∧
          (fired hive.source false v s).map (Callback.seenIn hive.source) = seen.map .ok

/-- **A walk through an image in which a tree stands shows the tree.** -/
theorem showsAs_of_stands {root : Key Nat} (h : Headed im root.cell) (hs : root.Stands im)
    (hf : root.Fits) (hn : root.cells.Nodup) : ShowsAs im root.seen := by
  intro path tracing
  obtain ⟨evs, hrec, hshow⟩ := recursive_of_stands h.binned path tracing hs hf hn
  cases root with
  | key cell head values subkeys =>
    obtain ⟨slots, -, hc⟩ := hs.keyAt.cell
    obtain ⟨trace, hopen⟩ := ofImage_eq h hf.own.1 hc path tracing
    refine ⟨_, trace, hopen, fun v s hv hp => ?_⟩
    have hevs : events (opened path im tracing cell head).source = evs :=
      recursive_unique (recursive_events _) hrec
    rw [← hevs] at hshow
    obtain ⟨t, ht, -⟩ := forM_calm false hv (fun ev hev => (hshow.clean ev hev).2)
      (fun _ ev hev => (hshow.clean ev hev).1) s hp
    obtain ⟨hok, hfired⟩ := run_of_forM_ok ht
    refine ⟨⟨_, hok⟩, ?_⟩
    rw [Key.cell, hfired]
    exact hshow.calls

end HiveDump.Layout
