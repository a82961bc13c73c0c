import HiveDump.Proofs.Image.Drawing
import HiveDump.Proofs.Text.Utf16

/-!
# Trees are read back as they were laid out

Drawing a tree leaves one that stands in the image and shows the same. Its keys lie in different
cells, since what is drawn later lies behind what was drawn before (`Within`), and so do its lists.

Results:
* **`Key.draws`**: drawing a tree leaves a tree that stands;
* **`shows_tree`**: a walk through an image shows the tree that was laid out in it.
-/

namespace HiveDump.Layout

variable {im : Image} {α : Type}

/-! ## Distances in a part of an image -/

/-- Whether these distances lie in a part of an image, no two of them the same. -/
structure Within (start stop : Nat) (distances : List Nat) : Prop where
  nodup : distances.Nodup
  range : ∀ d ∈ distances, start ≤ d ∧ d < stop

variable {start between stop : Nat} {a b : List Nat}

theorem Within.nil : Within start stop [] :=
  ⟨List.nodup_nil, by simp⟩

theorem Within.append (ha : Within start between a) (hb : Within between stop b)
    (hle : start ≤ between) (hle' : between ≤ stop) : Within start stop (a ++ b) := by
  refine ⟨List.nodup_append.mpr ⟨ha.nodup, hb.nodup, ?_⟩, fun d hd => ?_⟩
  · intro d hd e he heq
    have := (ha.range d hd).2
    have := (hb.range e he).1
    omega
  · rcases List.mem_append.mp hd with hd | hd
    · have := ha.range d hd
      omega
    · have := hb.range d hd
      omega

theorem Within.mono (ha : Within start between a) (hle : between ≤ stop) : Within start stop a := by
  refine ⟨ha.nodup, fun d hd => ?_⟩
  have := ha.range d hd
  omega

/-- A cell behind others. -/
theorem Within.cons {d : Nat} (ha : Within start between a) (hd : between ≤ d) (hlt : d < stop)
    (hle : start ≤ between) : Within start stop (d :: a) := by
  refine ⟨List.nodup_cons.mpr ⟨fun hm => ?_, ha.nodup⟩, fun e he => ?_⟩
  · have := (ha.range d hm).2
    omega
  · rcases List.mem_cons.mp he with rfl | he
    · omega
    · have := ha.range e he
      omega

theorem Within.perm (ha : Within start stop a) (h : a.Perm b) : Within start stop b :=
  ⟨h.nodup ha.nodup, fun d hd => ha.range d (h.mem_iff.mpr hd)⟩

/-! ## Keys -/

theorem seen_of_drafts {head : KeyHead} {placed : List (Nat × ValueDraft)}
    {values : List (α × ValueDraft)} (h : placed.map (·.2) = values.map (·.2)) :
    valuesSeen head placed = valuesSeen head values := by
  have hmap := congrArg (List.map fun v => Seen.value head.seen v.seen) h
  rwa [List.map_map, List.map_map] at hmap

theorem fits_of_drafts {placed : List (Nat × ValueDraft)} {values : List (α × ValueDraft)}
    (h : placed.map (·.2) = values.map (·.2)) (hf : ∀ p ∈ values, p.2.Fits) :
    ∀ p ∈ placed, p.2.Fits := by
  intro p hp
  have hm : p.2 ∈ values.map (·.2) := h ▸ List.mem_map_of_mem hp
  obtain ⟨q, hq, heq⟩ := List.mem_map.mp hm
  exact heq ▸ hf q hq

/-- What drawing a key behind its lists leaves. -/
structure LeftKey (head : KeyHead) (values : List (α × ValueDraft)) (subkeys : Option (KeyList Nat))
    (im : Image) (start stop : Nat) (key : Key Nat) (distance : Nat)
    (placed : List (Nat × ValueDraft)) : Prop where
  key : key = .key distance head placed subkeys
  range : start ≤ distance ∧ distance < stop
  drafts : placed.map (·.2) = values.map (·.2)
  keyAt : (subkeysOf subkeys).length < 0xFFFFFFFF → KeyAt im distance head placed subkeys

theorem draws_key {head : KeyHead} {values : List (α × ValueDraft)} (hh : head.Fits)
    (hv : ∀ p ∈ values, p.2.Fits) (subkeys : Option (KeyList Nat)) :
    Draws (drawKey head values subkeys) fun im start stop key =>
      ∃ distance placed, LeftKey head values subkeys im start stop key distance placed := by
  unfold drawKey
  refine Draws.imp (Draws.bind (draws_values values hv) fun placed =>
    Draws.bind (draws_valueSlots (placed.map (·.1))) fun slots =>
      Draws.bind (draws_cell _) fun distance => draws_pure _) ?_
  rintro im start stop r - - hstop ⟨placed, m₁, hle₁, -, hplaced, slots, m₂, hle₂, hle₃, hslots,
    distance, m₃, -, hle₄, hd, -, rfl⟩
  have hroom := hplaced.room
  have hsize := hd.size
  have hcell := le_cellSize (keyRecord head (subkeysOf subkeys).length (listDistance subkeys)
    placed.length slots).length
  have hhere := hd.here
  have hname := hh.name.length
  refine ⟨distance, placed, rfl, by omega, hplaced.drafts, fun hcount =>
    ⟨⟨slots, hslots ?_, hd.cellAt ?_⟩, hplaced.valueAt, hcount⟩⟩
  · rw [List.length_map]
    exact cellSize_le (by omega)
  · rw [length_keyRecord]
    exact cellSize_le (by omega)

/-! ## Trees -/

/-- What drawing a tree leaves. -/
structure LeftTree (key : Key α) (im : Image) (start stop : Nat) (placed : Key Nat) : Prop where
  stands : placed.Stands im
  fits : placed.Fits
  seen : placed.seen = key.seen
  cells : Within start stop placed.cells

/-- What drawing a list leaves, with everything it names. -/
structure LeftList (list : KeyList α) (im : Image) (start stop : Nat) (placed : KeyList Nat) :
    Prop where
  stands : placed.Stands im
  fits : placed.Fits
  depth : placed.depth = list.depth
  seen : placed.seen = list.seen
  cells : Within start stop placed.cells
  lists : Within start stop (placed.cell :: placed.inner)
  room : start + placed.named.length ≤ stop

/-- What drawing keys leaves. -/
structure LeftKeys (keys : List (Key α)) (im : Image) (start stop : Nat) (placed : List (Key Nat)) :
    Prop where
  stand : standAll im placed
  fit : fitAll placed
  length : placed.length = keys.length
  seen : seenAll placed = seenAll keys
  cells : Within start stop (cellsAll placed)
  room : start + placed.length ≤ stop

/-- What drawing lists leaves. -/
structure LeftLists (lists : List (KeyList α)) (im : Image) (start stop : Nat)
    (placed : List (KeyList Nat)) : Prop where
  stand : standBelow im placed
  fit : fitBelow placed
  length : placed.length = lists.length
  depth : depthAll placed = depthAll lists
  seen : seenBelow placed = seenBelow lists
  cells : Within start stop (cellsBelow placed)
  lists : Within start stop (placed.map KeyList.cell ++ belowAll placed)
  room : start + (namedAll placed).length ≤ stop

theorem cell_mem_cells (key : Key α) : key.cell ∈ key.cells := by
  cases key with
  | key cell head values subkeys => cases subkeys <;> exact List.mem_cons_self

theorem LeftTree.room {key : Key α} {placed : Key Nat}
    (h : LeftTree key im start stop placed) : start < stop := by
  have := h.cells.range _ (cell_mem_cells placed)
  omega

theorem length_record_le (kind : KeyListKind) (distances : List Nat) :
    (kind.record distances).length ≤ 4 + 8 * distances.length := by
  have hslots : (distances.flatMap kind.slot).length ≤ 8 * distances.length := by
    induction distances with
    | nil => simp
    | cons d distances ih =>
      rw [List.flatMap_cons, List.length_append, length_slot, List.length_cons]
      have : kind.content.slotSize?.getD 0 ≤ 8 := by cases kind <;> decide
      omega
  rw [KeyListKind.record, List.length_append, List.length_append, length_letters, length_word]
  omega

theorem length_listsRecord (distances : List Nat) :
    (listsRecord distances).length = 4 + 4 * distances.length := by
  rw [listsRecord, List.length_append, List.length_append, length_flatMap_dword, length_word]
  rfl

mutual

/-- **Drawing a tree leaves a tree that stands.** -/
theorem Key.draws : ∀ {key : Key α}, key.Fits → Draws key.draw (LeftTree key)
  | .key _ head values none, hf => by
    unfold Key.draw
    refine (draws_key hf.own.1 hf.own.2 none).imp ?_
    rintro im start stop r - - - ⟨distance, placed, hkey⟩
    obtain ⟨rfl, hrange, hdrafts, hat⟩ := hkey
    refine ⟨hat (by decide), ⟨hf.own.1, fits_of_drafts hdrafts hf.own.2⟩, ?_, ?_⟩
    · rw [Key.seen, seen_of_drafts hdrafts, Key.seen]
    · exact Within.cons .nil hrange.1 hrange.2 (Nat.le_refl start)
  | .key _ head values (some list), hf => by
    unfold Key.draw
    refine Draws.imp ((KeyList.draws hf.2.2.2).bind fun below =>
      draws_key hf.own.1 hf.own.2 (some below)) ?_
    rintro im start stop r hstart - hstop ⟨below, between, hle, hle', hlist, distance, placed,
      hkey⟩
    obtain ⟨rfl, hrange, hdrafts, hat⟩ := hkey
    have hroom := hlist.room
    have hcount : (subkeysOf (some below)).length < 0xFFFFFFFF := by
      change below.named.length < 0xFFFFFFFF
      have : 0x20 ≤ start := hstart
      omega
    have hdepth : below.depth ≤ maxListDepth := hlist.depth ▸ hf.2.2.1
    refine ⟨⟨hat hcount, hlist.lists.nodup, hlist.stands⟩,
      ⟨hf.own.1, fits_of_drafts hdrafts hf.own.2, hdepth, hlist.fits⟩, ?_, ?_⟩
    · rw [Key.seen, seen_of_drafts hdrafts, hlist.seen, Key.seen]
    · exact hlist.cells.cons hrange.1 hrange.2 hle

/-- So does drawing a list, with everything it names. -/
theorem KeyList.draws : ∀ {list : KeyList α}, list.Fits → Draws list.draw (LeftList list)
  | .keys _ kind named, hf => by
    unfold KeyList.draw
    refine Draws.imp ((draws_keys hf.2).bind fun placed =>
      (draws_cell _).bind fun distance => draws_pure _) ?_
    rintro im start stop r - - - ⟨placed, between, hle, hle', hkeys, distance, between', -, -, hd,
      rfl, rfl⟩
    have hlength := hkeys.length
    have hroom := hkeys.room
    have hhere := hd.here
    have hsize := hd.size
    have hrecord := length_record_le kind (placed.map Key.cell)
    have hcell := le_cellSize (kind.record (placed.map Key.cell)).length
    have hcount := hf.1
    rw [List.length_map] at hrecord
    refine ⟨⟨hd.cellAt (cellSize_le (by omega)), hkeys.stand⟩, ⟨hlength ▸ hcount, hkeys.fit⟩, rfl,
      hkeys.seen, ?_, ?_, ?_⟩
    · exact hkeys.cells.mono hle'
    · exact Within.cons .nil (Nat.le_of_eq hhere.symm) (show distance < _ by omega) hle
    · change start + placed.length ≤ _
      omega
  | .lists _ below, hf => by
    unfold KeyList.draw
    refine Draws.imp ((draws_lists hf.2).bind fun placed =>
      (draws_cell _).bind fun distance => draws_pure _) ?_
    rintro im start stop r - - - ⟨placed, between, hle, hle', hlists, distance, between', -, -, hd,
      rfl, rfl⟩
    have hlength := hlists.length
    have hroom := hlists.room
    have hhere := hd.here
    have hsize := hd.size
    have hrecord := length_listsRecord (placed.map KeyList.cell)
    have hcell := le_cellSize (listsRecord (placed.map KeyList.cell)).length
    have hcount := hf.1
    rw [List.length_map] at hrecord
    refine ⟨⟨hd.cellAt (cellSize_le (by omega)), hlists.stand⟩, ⟨hlength ▸ hcount, hlists.fit⟩, ?_,
      hlists.seen, ?_, ?_, ?_⟩
    · rw [KeyList.depth, KeyList.depth, hlists.depth]
    · exact hlists.cells.mono hle'
    · exact hlists.lists.cons (Nat.le_of_eq hhere.symm) (show distance < _ by omega) hle
    · change start + (namedAll placed).length ≤ _
      omega

theorem draws_keys : ∀ {keys : List (Key α)}, fitAll keys → Draws (drawKeys keys) (LeftKeys keys)
  | [], _ => by
    unfold drawKeys
    refine (draws_pure []).imp ?_
    rintro im start stop r - hle - ⟨-, rfl⟩
    exact ⟨trivial, trivial, rfl, rfl, .nil, hle⟩
  | key :: keys, hf => by
    unfold drawKeys
    refine Draws.imp ((Key.draws hf.1).bind fun placed =>
      (draws_keys hf.2).bind fun rest => draws_pure (placed :: rest)) ?_
    rintro im start stop r - - - ⟨placed, between, hle, hle', hkey, rest, between', hle₂, -, hkeys,
      rfl, rfl⟩
    have hroom := hkey.room
    have hroom' := hkeys.room
    refine ⟨⟨hkey.stands, hkeys.stand⟩, ⟨hkey.fits, hkeys.fit⟩, ?_, ?_, ?_, ?_⟩
    · rw [List.length_cons, List.length_cons, hkeys.length]
    · rw [seenAll, seenAll, hkey.seen, hkeys.seen]
    · exact hkey.cells.append hkeys.cells hle hle₂
    · rw [List.length_cons]
      omega

theorem draws_lists : ∀ {lists : List (KeyList α)}, fitBelow lists →
    Draws (drawLists lists) (LeftLists lists)
  | [], _ => by
    unfold drawLists
    refine (draws_pure []).imp ?_
    rintro im start stop r - hle - ⟨-, rfl⟩
    exact ⟨trivial, trivial, rfl, rfl, rfl, .nil, .nil, hle⟩
  | list :: lists, hf => by
    unfold drawLists
    refine Draws.imp ((KeyList.draws hf.1).bind fun placed =>
      (draws_lists hf.2).bind fun rest => draws_pure (placed :: rest)) ?_
    rintro im start stop r - - - ⟨placed, between, hle, hle', hlist, rest, between', hle₂, -,
      hlists, rfl, rfl⟩
    have hroom := hlist.room
    have hroom' := hlists.room
    refine ⟨⟨hlist.stands, hlists.stand⟩, ⟨hlist.fits, hlists.fit⟩, ?_, ?_, ?_, ?_, ?_, ?_⟩
    · rw [List.length_cons, List.length_cons, hlists.length]
    · rw [depthAll, depthAll, hlist.depth, hlists.depth]
    · rw [seenBelow, seenBelow, hlist.seen, hlists.seen]
    · exact hlist.cells.append hlists.cells hle hle₂
    · refine (hlist.lists.append hlists.lists hle hle₂).perm (.cons _ ?_)
      exact (List.perm_append_comm_assoc _ _ _)
    · rw [namedAll, List.length_append]
      omega

end

/-! ## Images -/

/-- An image contains the cells that it was given. -/
theorem contains_imageOf (timestamp root : Nat) {cells : Bytes}
    (h : binHeaderSize + cells.length ≤ 2 ^ 32) :
    Contains (imageOf timestamp root cells) cells := by
  refine ⟨?_, h⟩
  have hh := imageOf_holds timestamp root [] cells []
  rwa [List.nil_append, List.append_nil] at hh

/-- The text of a name without the flag is the one that is written as its bytes, if there is one. -/
theorem text?_wide {bytes : Bytes} {text : String} :
    (StoredName.wide bytes).text? = some text ↔ Utf16.encode text.toList = bytes :=
  Utf16.decodeName?_eq_some

/-- **A walk through an image shows the tree that was laid out in it**: in any image in which all
cells of a tree stand, in whatever order, and so in the one that the tree is laid out as. Names are
shown as the texts that are stored as their bytes. -/
theorem shows_tree :
    (∀ (im : Image) (root : Key Nat), Headed im root.cell → root.Stands im → root.Fits →
      root.cells.Nodup → ShowsAs im root.seen) ∧
    (∀ {α : Type} (timestamp : Nat) (root : Key α), root.Fits →
      binSize (root.draw.run []).2.length < 2 ^ 32 → ShowsAs (image timestamp root) root.seen) ∧
    ∀ (bytes : Bytes) (text : String),
      (StoredName.wide bytes).text? = some text ↔ Utf16.encode text.toList = bytes := by
  refine ⟨fun im root h hs hf hn => showsAs_of_stands h hs hf hn, ?_, fun _ _ => text?_wide⟩
  intro α timestamp root hf hsize
  obtain ⟨cells, hrun, hleft⟩ := Key.draws hf []
  rw [List.nil_append] at hrun hleft
  rw [hrun] at hsize
  have hle := le_binSize cells.length
  have him : image timestamp root =
      imageOf timestamp (root.draw.run []).1.cell (root.draw.run []).2 := rfl
  rw [him, hrun]
  have htree := hleft _ (contains_imageOf timestamp (root.draw.run []).1.cell (by omega))
  rw [← htree.seen]
  exact showsAs_of_stands (headed_imageOf timestamp cells htree.stands.cell_lt) htree.stands
    htree.fits htree.cells.nodup

/-- A tree with names of both kinds, values of which one has a cell for its payload, and subkeys in
lists of lists. -/
def branchedTree : Key Unit :=
  .key () { name := .oneByte "root", timestamp := 5, isRoot := true }
    [((), ⟨.oneByte "n", 4, [1, 2, 3, 4]⟩), ((), ⟨.wide [0x73, 0], 1, [0x41, 0, 0x42, 0, 0, 0]⟩)]
    (some (.lists () [.keys () .leaf [.key () { name := .oneByte "a" } [] none],
      .lists () [.keys () .index [.key () { name := .wide [0x62, 0x05] } [] none]]]))

theorem fits_branchedTree : branchedTree.Fits := by
  refine ⟨by decide, ?_, by decide, by decide, ⟨by decide, ⟨by decide, by simp⟩, trivial⟩,
    ⟨by decide, ⟨by decide, ⟨by decide, by simp⟩, trivial⟩, trivial⟩, trivial⟩
  intro p hp
  simp only [List.mem_cons, List.not_mem_nil, or_false] at hp
  rcases hp with rfl | rfl
  · exact ⟨by decide, by decide, by decide, by decide, by decide, by decide⟩
  · exact ⟨by decide, by decide, by decide, by decide, by decide, by decide⟩

theorem shows_tree_branchedTree :
    branchedTree.Fits ∧ binSize (branchedTree.draw.run []).2.length < 2 ^ 32 ∧
      ShowsAs (image 7 branchedTree) branchedTree.seen := by
  have hsize : binSize (branchedTree.draw.run []).2.length < 2 ^ 32 := by decide +kernel
  exact ⟨fits_branchedTree, hsize, shows_tree.2.1 7 branchedTree fits_branchedTree hsize⟩

end HiveDump.Layout
