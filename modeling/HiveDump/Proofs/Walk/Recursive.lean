import HiveDump.Walk.Recursive

/-!
# The stack walk is the recursive walk

`Walk.events` keeps the open nodes on a stack and stops after a number of steps; `Walk.Recursive`
needs neither. The frames of the stack are what the recursion still has to do: `Unwinds` reads a
stack as that recursion, and every function of the loop moves some of it into the events met.

The number of steps never shows. Every step enters a subkey with a new handle, and a source has no
more than `capacity` of them (`Source.handles_le`), so the budget is not used up while there is
still something to enter (`Fits`).

Results:
* **`recursive_events`**: the stack walk meets what the recursive walk meets;
* **`recursive_unique`**: the recursive walk is a function of the source.
-/

namespace HiveDump.Walk

variable {src : Source} {visited : Visited} {entered after : List Int} {n : Node}

/-! ## The recursion as a function -/

theorem inside_unique {rest : List (Entry Node)} {evs evs' : List Event} {after' : List Int}
    (h : Inside src entered n rest evs after) (h' : Inside src entered n rest evs' after') :
    evs = evs' ∧ after = after' := by
  induction h generalizing evs' after' with
  | nil => cases h'; exact ⟨rfl, rfl⟩
  | bad he _ ih =>
    cases h' with
    | bad _ hrest' =>
      obtain ⟨rfl, rfl⟩ := ih hrest'
      exact ⟨rfl, rfl⟩
    | again he' => rw [he] at he'; cases he'
    | fresh he' => rw [he] at he'; cases he'
  | again he hc _ ih =>
    cases h' with
    | bad he' => rw [he] at he'; cases he'
    | again he' _ hrest' =>
      rw [he] at he'; cases he'
      obtain ⟨rfl, rfl⟩ := ih hrest'
      exact ⟨rfl, rfl⟩
    | fresh he' hc' => rw [he] at he'; cases he'; exact absurd hc hc'
  | fresh he hc _ _ ihChild ihRest =>
    cases h' with
    | bad he' => rw [he] at he'; cases he'
    | again he' hc' => rw [he] at he'; cases he'; exact absurd hc' hc
    | fresh he' _ hchild' hrest' =>
      rw [he] at he'; cases he'
      obtain ⟨rfl, rfl⟩ := ihChild hchild'
      obtain ⟨rfl, rfl⟩ := ihRest hrest'
      exact ⟨rfl, rfl⟩

/-- **The recursive walk is a function of the source.** -/
theorem recursive_unique {evs evs' : List Event} (h : Recursive src evs)
    (h' : Recursive src evs') : evs = evs' := by
  obtain ⟨inside, after, hin, rfl⟩ := h
  obtain ⟨inside', after', hin', rfl⟩ := h'
  rw [(inside_unique hin hin').1]

/-! ## What a stack still has to do -/

/-- The events that the open nodes still lead to, and the nodes entered behind them. -/
inductive Unwinds (src : Source) :
    (entered : List Int) → List Frame → List Event → (after : List Int) → Prop
  | nil {entered : List Int} : Unwinds src entered [] [] entered
  | cons {entered : List Int} {f : Frame} {frames : List Frame} {inside behind : List Event}
      {between after : List Int}
      (hf : Inside src entered f.node f.rest inside between)
      (hframes : Unwinds src between frames behind after) :
      Unwinds src entered (f :: frames) (inside ++ .leave f.node :: behind) after

/-- The set that the loop keeps holds the handles that the recursion keeps. -/
def Agrees (visited : Visited) (entered : List Int) : Prop :=
  ∀ h, visited.contains h = true ↔ h ∈ entered

theorem agrees_insert {h : Int} (ha : Agrees visited entered) :
    Agrees (visited.insert h) (h :: entered) := by
  intro k
  rw [Std.HashSet.contains_insert, Bool.or_eq_true, beq_iff_eq, ha k, List.mem_cons, eq_comm]

theorem agrees_root : Agrees (Std.HashSet.emptyWithCapacity.insert n.handle) [n.handle] := by
  intro k
  rw [Std.HashSet.contains_insert, Bool.or_eq_true, beq_iff_eq, List.mem_singleton, eq_comm]
  simp

/-! ## One step of the loop -/

/-- A subkey of a node that can be reached. -/
def Listed (src : Source) (c : Node) : Prop :=
  ∃ parent, src.Reachable parent ∧ c ∈ Listing.good (src.children parent)

theorem Listed.reachable {c : Node} (h : Listed src c) : src.Reachable c := by
  obtain ⟨parent, hp, hc⟩ := h
  exact .child hp hc

/-- The subkeys that the entries name are subkeys of the source. -/
def Names (src : Source) (rest : List (Entry Node)) : Prop :=
  ∀ e ∈ rest, ∀ c, e.good? = some c → Listed src c

theorem names_entries (hn : src.Reachable n) : Names src (Listing.entries (src.children n)) :=
  fun e he _ hc => ⟨n, hn, List.mem_filterMap.mpr ⟨e, he, hc⟩⟩

/-- Reading `rest` meets `evs` and finds `child`, which is to be entered before `rest'` is read. -/
structure Finds (src : Source) (entered : List Int) (n : Node) (rest : List (Entry Node))
    (evs : List Event) (child : Node) (rest' : List (Entry Node)) : Prop where
  fresh : child.handle ∉ entered
  listed : Listed src child
  names : Names src rest'
  resume : ∀ {here behind : List Event} {between after : List Int},
    Inside src (child.handle :: entered) child (Listing.entries (src.children child)) here between →
    Inside src between n rest' behind after →
    Inside src entered n rest (evs ++ around src child here ++ behind) after

/-- What reading `rest` comes to: its end, or a subkey to enter. -/
def Reads (src : Source) (entered : List Int) (n : Node) (rest : List (Entry Node))
    (evs : List Event) : Option (Node × List (Entry Node)) → Prop
  | none => Inside src entered n rest evs entered
  | some (child, rest') => Finds src entered n rest evs child rest'

/-- An entry that leads nowhere, in front of others. -/
theorem Reads.cons {e : Entry Node} {rest : List (Entry Node)} {evs : List Event}
    {next : Option (Node × List (Entry Node))} (h : Reads src entered n rest evs next)
    (skipped : List Event)
    (hskip : ∀ {behind : List Event} {after : List Int}, Inside src entered n rest behind after →
      Inside src entered n (e :: rest) (skipped ++ behind) after) :
    Reads src entered n (e :: rest) (skipped ++ evs) next := by
  cases next with
  | none => exact hskip h
  | some found =>
    refine ⟨h.fresh, h.listed, h.names, fun hchild hrest => ?_⟩
    have := hskip (h.resume hchild hrest)
    simpa only [List.append_assoc] using this

/-- Reading on in a node does a part of the recursion and leaves the rest to what follows. -/
theorem nextChild_spec (ha : Agrees visited entered) :
    ∀ (rest : List (Entry Node)) (met : Array Event), Names src rest →
      ∃ evs, (nextChild visited n rest met).1.toList = met.toList ++ evs ∧
        Reads src entered n rest evs (nextChild visited n rest met).2
  | [], met, _ => ⟨[], by simp [nextChild], .nil⟩
  | e :: rest, met, hn => by
    have hrest : Names src rest := fun e' he' => hn e' (List.mem_cons_of_mem _ he')
    cases he : e.good? with
    | none =>
      obtain ⟨evs, hmet, hnext⟩ := nextChild_spec ha rest
        (met.appendList (entryEvents .subkeys n e)) hrest
      refine ⟨entryEvents .subkeys n e ++ evs, ?_, ?_⟩
      · simpa [nextChild, he] using hmet
      · simpa only [nextChild, he] using hnext.cons _ (.bad he)
    | some child =>
      by_cases hc : child.handle ∈ entered
      · have hv := (ha child.handle).mpr hc
        obtain ⟨evs, hmet, hnext⟩ := nextChild_spec ha rest
          ((met.appendList (entryEvents .subkeys n e)).push
            (.malformed (.revisited child.handle n.handle) .subkeys n)) hrest
        refine ⟨entryEvents .subkeys n e ++
          .malformed (.revisited child.handle n.handle) .subkeys n :: evs, ?_, ?_⟩
        · simpa [nextChild, he, hv] using hmet
        · have := hnext.cons (entryEvents .subkeys n e ++
            [.malformed (.revisited child.handle n.handle) .subkeys n])
            fun h => by simpa using Inside.again he hc h
          simpa [nextChild, he, hv] using this
      · have hv : visited.contains child.handle = false :=
          Bool.eq_false_iff.mpr fun h => hc ((ha child.handle).mp h)
        refine ⟨entryEvents .subkeys n e, by simp [nextChild, he, hv], ?_⟩
        simp only [nextChild, he, hv]
        exact ⟨hc, hn e List.mem_cons_self child he, hrest,
          fun hchild hrest => .fresh he hc hchild hrest⟩

/-! ## Leaving open nodes -/

/-- The open nodes name subkeys of the source. -/
def FramesName (src : Source) (frames : List Frame) : Prop :=
  ∀ f ∈ frames, Names src f.rest

/-- Unwinding `frames` meets `evs` and finds `child`, which is to be entered with the open nodes
`frames'`. -/
structure UnwindsTo (src : Source) (entered : List Int) (frames : List Frame) (evs : List Event)
    (child : Node) (frames' : List Frame) : Prop where
  fresh : child.handle ∉ entered
  listed : Listed src child
  names : FramesName src frames'
  resume : ∀ {behind : List Event} {after : List Int},
    Unwinds src (child.handle :: entered) (Frame.of src child :: frames') behind after →
    Unwinds src entered frames (evs ++ enterEvents src child ++ behind) after

/-- What unwinding `frames` comes to: the end of the walk, or a node to enter. -/
def Leaves (src : Source) (entered : List Int) (frames : List Frame) (evs : List Event) :
    Option (Node × List Frame) → Prop
  | none => Unwinds src entered frames evs entered
  | some (child, frames') => UnwindsTo src entered frames evs child frames'

/-- Leaving nodes does a part of the recursion and leaves the rest to what follows. -/
theorem nextNode_spec (src : Source) (ha : Agrees visited entered) :
    ∀ (frames : List Frame) (met : Array Event), FramesName src frames →
      ∃ evs, (nextNode visited frames met).1.toList = met.toList ++ evs ∧
        Leaves src entered frames evs (nextNode visited frames met).2
  | [], met, _ => ⟨[], by simp [nextNode], .nil⟩
  | f :: frames, met, hn => by
    have hframes : FramesName src frames := fun g hg => hn g (List.mem_cons_of_mem _ hg)
    obtain ⟨evs, hmet, hnext⟩ := nextChild_spec (n := f.node) ha f.rest met
      (hn f List.mem_cons_self)
    cases hchild : nextChild visited f.node f.rest met with
    | mk met' next =>
      rw [hchild] at hmet hnext
      simp only at hmet
      cases next with
      | none =>
        obtain ⟨behind, hmet', hleaves⟩ :=
          nextNode_spec src ha frames (met'.push (.leave f.node)) hframes
        refine ⟨evs ++ .leave f.node :: behind, ?_, ?_⟩
        · simpa [nextNode, hchild, hmet] using hmet'
        · simp only [nextNode, hchild]
          cases hres : (nextNode visited frames (met'.push (.leave f.node))).2 with
          | none =>
            rw [hres] at hleaves
            exact .cons hnext hleaves
          | some found =>
            rw [hres] at hleaves
            refine ⟨hleaves.fresh, hleaves.listed, hleaves.names, fun h => ?_⟩
            have := Unwinds.cons hnext (hleaves.resume h)
            simpa only [List.append_assoc, List.cons_append] using this
      | some found =>
        obtain ⟨child, rest'⟩ := found
        refine ⟨evs, by simpa [nextNode, hchild] using hmet, ?_⟩
        simp only [nextNode, hchild]
        refine ⟨hnext.fresh, hnext.listed, ?_, fun h => ?_⟩
        · intro g hg
          rcases List.mem_cons.mp hg with rfl | hg
          · exact hnext.names
          · exact hframes g hg
        · cases h with
          | cons hc hrest =>
            cases hrest with
            | cons hr hframes' =>
              have := Unwinds.cons (f := f) (hnext.resume hc hr) hframes'
              simpa [around, Frame.of] using this

/-! ## The whole walk -/

/-- The nodes entered so far, the root apart, have different handles of the source, and the budget
is enough for all that are left. -/
structure Fits (src : Source) (budget : Nat) (entered : List Int) : Prop where
  nodup : entered.Nodup
  listed : ∃ handles, entered = handles ++ [src.root.handle] ∧
    (∀ h ∈ handles, ∃ c, Listed src c ∧ c.handle = h) ∧ src.capacity ≤ budget + handles.length

theorem fits_root : Fits src src.capacity [src.root.handle] :=
  ⟨by simp, [], rfl, by simp, by simp⟩

/-- With a new subkey to enter there is still something left of the budget. -/
theorem fits_pos {budget : Nat} {child : Node} (h : Fits src budget entered)
    (hc : child.handle ∉ entered) (hl : Listed src child) : 0 < budget := by
  obtain ⟨handles, rfl, hall, hcap⟩ := h.listed
  have hnodup : (child.handle :: handles).Nodup :=
    List.nodup_cons.mpr ⟨fun hm => hc (List.mem_append_left _ hm),
      h.nodup.sublist (List.sublist_append_left _ _)⟩
  have hle := src.handles_le (child.handle :: handles) hnodup fun k hk => by
    rcases List.mem_cons.mp hk with rfl | hk
    · obtain ⟨parent, hp, hm⟩ := hl
      exact ⟨parent, hp, child, hm, rfl⟩
    · obtain ⟨c, ⟨parent, hp, hm⟩, hck⟩ := hall k hk
      exact ⟨parent, hp, c, hm, hck⟩
  rw [List.length_cons] at hle
  omega

theorem fits_enter {budget : Nat} {child : Node} (h : Fits src (budget + 1) entered)
    (hc : child.handle ∉ entered) (hl : Listed src child) :
    Fits src budget (child.handle :: entered) := by
  obtain ⟨handles, rfl, hall, hcap⟩ := h.listed
  refine ⟨List.nodup_cons.mpr ⟨hc, h.nodup⟩, child.handle :: handles, rfl, ?_, ?_⟩
  · intro k hk
    rcases List.mem_cons.mp hk with rfl | hk
    · exact ⟨child, hl, rfl⟩
    · exact hall k hk
  · rw [List.length_cons]
    omega

/-- The loop does all that the stack still has to do. -/
theorem descend_unwinds (src : Source) :
    ∀ (budget : Nat) (visited : Visited) (entered : List Int) (frames : List Frame)
      (met : Array Event), Agrees visited entered → FramesName src frames →
      Fits src budget entered →
      ∃ evs after, (descend src budget visited frames met).toList = met.toList ++ evs ∧
        Unwinds src entered frames evs after
  | budget, visited, entered, frames, met, ha, hn, hfits => by
    obtain ⟨evs, hmet, hnext⟩ := nextNode_spec src ha frames met hn
    cases hnode : nextNode visited frames met with
    | mk met' next =>
      rw [hnode] at hmet hnext
      simp only at hmet
      cases next with
      | none =>
        refine ⟨evs, entered, ?_, hnext⟩
        cases budget with
        | zero => simpa [descend, hnode] using hmet
        | succ budget => simpa [descend, hnode] using hmet
      | some found =>
        obtain ⟨child, frames'⟩ := found
        have hpos := fits_pos hfits hnext.fresh hnext.listed
        obtain ⟨budget, rfl⟩ : ∃ b, budget = b + 1 := ⟨budget - 1, by omega⟩
        have hn' : FramesName src (Frame.of src child :: frames') := by
          intro g hg
          rcases List.mem_cons.mp hg with rfl | hg
          · exact names_entries hnext.listed.reachable
          · exact hnext.names g hg
        obtain ⟨behind, after, hmet', hunw⟩ := descend_unwinds src budget
          (visited.insert child.handle) (child.handle :: entered) (Frame.of src child :: frames')
          (met'.appendList (enterEvents src child)) (agrees_insert ha) hn'
          (fits_enter hfits hnext.fresh hnext.listed)
        refine ⟨evs ++ enterEvents src child ++ behind, after, ?_, hnext.resume hunw⟩
        simpa [descend, hnode, hmet] using hmet'

/-- **The stack walk meets what the recursive walk meets.** -/
theorem recursive_events (src : Source) : Recursive src (events src) := by
  have hn : FramesName src [Frame.of src src.root] := by
    intro g hg
    rw [List.mem_singleton.mp hg]
    exact names_entries .root
  obtain ⟨evs, after, hmet, hunw⟩ := descend_unwinds src src.capacity _ _ _
    (enterEvents src src.root).toArray agrees_root hn fits_root
  cases hunw with
  | cons hin hnil =>
    cases hnil
    exact ⟨_, _, hin, by simpa [events, around, Frame.of] using hmet⟩

/-- A walk through a root without subkeys. -/
theorem events_of_childless {src : Source} (h : Listing.entries (src.children src.root) = []) :
    events src = around src src.root [] := by
  obtain ⟨inside, after, hinside, hevents⟩ := recursive_events src
  rw [h] at hinside
  cases hinside
  exact hevents

/-- A walk through a root goes on to its first subkey. -/
theorem events_of_firstChild {src : Source} {e : Entry Node} {rest : List (Entry Node)} {n : Node}
    (h : Listing.entries (src.children src.root) = e :: rest) (he : e.good? = some n)
    (hne : n.handle ≠ src.root.handle) :
    ∃ after, events src =
      enterEvents src src.root ++ entryEvents .subkeys src.root e ++ .enter n :: after := by
  obtain ⟨inside, last, hinside, hevents⟩ := recursive_events src
  rw [h] at hinside
  cases hinside with
  | bad hbad hrest =>
    rw [he] at hbad
    cases hbad
  | again hchild hentered hrest =>
    rw [he] at hchild
    cases hchild
    exact absurd (List.mem_singleton.mp hentered) hne
  | @fresh _ _ _ _ _ below _ behind _ hchild hfresh hbelow hrest =>
    rw [he] at hchild
    cases hchild
    refine ⟨valueEvents src n ++ (below ++ (.leave n :: (behind ++ [.leave src.root]))), ?_⟩
    rw [hevents]
    simp only [around, enterEvents, List.append_assoc, List.cons_append, List.nil_append]

end HiveDump.Walk
