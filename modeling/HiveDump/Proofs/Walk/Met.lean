import HiveDump.Proofs.Walk.Recursive

/-!
# What a walk meets, and where

Everything a walk meets belongs to a node that can be reached (`MetAt`), and the walk comes to every
handle that can be reached and meets all that there is at it (`Covers`).

Results:
* **`metAt_of_recursive`**: what is met is met at a node that can be reached;
* **`covers_of_reachable`**: if nodes with one handle have the same subkeys, the walk enters every
  handle that can be reached and reads its lists to the end;
* `not_failed_of_onlyMalformed`: if every bad entry is malformed, nothing ends a walk that skips.
-/

namespace HiveDump.Walk

variable {src : Source} {entered after : List Int} {n : Node}

/-! ## Where an event is met -/

/-- What a walk can meet at a node. -/
inductive MetAt (src : Source) (n : Node) : Event → Prop
  | enter : MetAt src n (.enter n)
  | value {e : Entry Value} {ev : Event} (he : e ∈ Listing.entries (src.values n))
    (hev : ev ∈ entryEvents .values n e ++ (e.good?.map (Event.value n)).toList) : MetAt src n ev
  | subkey {e : Entry Node} {ev : Event} (he : e ∈ Listing.entries (src.children n))
    (hev : ev ∈ entryEvents .subkeys n e) : MetAt src n ev
  | revisited {c : Node} (hc : c ∈ Listing.good (src.children n)) :
    MetAt src n (.malformed (.revisited c.handle n.handle) .subkeys n)
  | leave : MetAt src n (.leave n)

/-- Something is met at a node that can be reached. -/
def MetSomewhere (src : Source) (ev : Event) : Prop :=
  ∃ m, src.Reachable m ∧ MetAt src m ev

theorem metAt_of_mem_enterEvents {ev : Event} (h : ev ∈ enterEvents src n) : MetAt src n ev := by
  rcases List.mem_cons.mp h with rfl | h
  · exact .enter
  · obtain ⟨e, he, hev⟩ := List.mem_flatMap.mp h
    exact .value he hev

theorem metSomewhere_around {inside : List Event} (hn : src.Reachable n)
    (h : ∀ ev ∈ inside, MetSomewhere src ev) :
    ∀ ev ∈ around src n inside, MetSomewhere src ev := by
  intro ev hev
  rw [around, List.mem_append, List.mem_append, List.mem_singleton] at hev
  rcases hev with (hev | hev) | rfl
  · exact ⟨n, hn, metAt_of_mem_enterEvents hev⟩
  · exact h ev hev
  · exact ⟨n, hn, .leave⟩

/-- The entries are entries of the node. -/
def Belong (src : Source) (n : Node) (rest : List (Entry Node)) : Prop :=
  ∀ e ∈ rest, e ∈ Listing.entries (src.children n)

theorem Belong.head {e : Entry Node} {rest : List (Entry Node)} (h : Belong src n (e :: rest)) :
    e ∈ Listing.entries (src.children n) :=
  h e List.mem_cons_self

theorem Belong.tail {e : Entry Node} {rest : List (Entry Node)} (h : Belong src n (e :: rest)) :
    Belong src n rest :=
  fun e' he' => h e' (List.mem_cons_of_mem _ he')

theorem Belong.good {e : Entry Node} {rest : List (Entry Node)} {c : Node}
    (h : Belong src n (e :: rest)) (he : e.good? = some c) :
    c ∈ Listing.good (src.children n) :=
  List.mem_filterMap.mpr ⟨e, h.head, he⟩

theorem metSomewhere_inside {rest : List (Entry Node)} {evs : List Event}
    (h : Inside src entered n rest evs after) (hn : src.Reachable n) (hb : Belong src n rest) :
    ∀ ev ∈ evs, MetSomewhere src ev := by
  induction h with
  | nil => simp
  | bad he _ ih =>
    intro ev hev
    rcases List.mem_append.mp hev with hev | hev
    · exact ⟨_, hn, .subkey hb.head hev⟩
    · exact ih hn hb.tail ev hev
  | again he hc _ ih =>
    intro ev hev
    rcases List.mem_append.mp hev with hev | hev
    · exact ⟨_, hn, .subkey hb.head hev⟩
    · rcases List.mem_cons.mp hev with rfl | hev
      · exact ⟨_, hn, .revisited (hb.good he)⟩
      · exact ih hn hb.tail ev hev
  | fresh he hc _ _ ihChild ihRest =>
    have hchild := Reaches.child hn (hb.good he)
    intro ev hev
    rw [List.mem_append, List.mem_append] at hev
    rcases hev with (hev | hev) | hev
    · exact ⟨_, hn, .subkey hb.head hev⟩
    · exact metSomewhere_around hchild (ihChild hchild fun _ h => h) ev hev
    · exact ihRest hn hb.tail ev hev

/-- **What a walk meets is met at a node that can be reached.** -/
theorem metAt_of_recursive {evs : List Event} (h : Recursive src evs) :
    ∀ ev ∈ evs, MetSomewhere src ev := by
  obtain ⟨inside, after, hin, rfl⟩ := h
  exact metSomewhere_around .root (metSomewhere_inside hin .root fun _ h => h)

/-! ## Sources whose bad entries are all malformed -/

/-- Whether every entry of the list that could not be read is a malformed one. -/
def MalformedOnly {α : Type} (l : Listing α) : Prop :=
  ∀ e ∈ Listing.entries l, ∀ fault, e.outcome = .error fault → fault.isMalformed = true

/-- Whether the lists of every node that can be reached report bad entries as malformed only. -/
structure OnlyMalformed (src : Source) : Prop where
  subkeys : ∀ n, src.Reachable n → MalformedOnly (src.children n)
  values : ∀ n, src.Reachable n → MalformedOnly (src.values n)

theorem isFailed_of_mem_entryEvents {α : Type} {l : Listing α} {list : EntryList} {e : Entry α}
    {ev : Event} (hl : MalformedOnly l) (he : e ∈ Listing.entries l)
    (hev : ev ∈ entryEvents list n e) : ev.isFailed = false := by
  rcases List.mem_append.mp hev with hev | hev
  · obtain ⟨line, -, rfl⟩ := List.mem_map.mp hev
    rfl
  · cases ho : e.outcome with
    | ok a => simp [ho] at hev
    | error fault =>
      simp only [ho, List.mem_singleton] at hev
      rw [hev, faultEvent, if_pos (hl e he fault ho)]
      rfl

theorem not_failed_of_onlyMalformed (hsrc : OnlyMalformed src) {evs : List Event}
    (h : Recursive src evs) : ∀ ev ∈ evs, ev.isFailed = false := by
  intro ev hev
  obtain ⟨m, hm, hat⟩ := metAt_of_recursive h ev hev
  cases hat with
  | enter => rfl
  | value he hev =>
    rcases List.mem_append.mp hev with hev | hev
    · exact isFailed_of_mem_entryEvents (hsrc.values m hm) he hev
    · obtain ⟨v, -, rfl⟩ := Option.map_eq_some_iff.mp (Option.mem_toList.mp hev)
      rfl
  | subkey he hev => exact isFailed_of_mem_entryEvents (hsrc.subkeys m hm) he hev
  | revisited => rfl
  | leave => rfl

/-! ## The walk comes everywhere -/

/-- The events hold all that there is at a node with the handle, and its subkeys were entered. -/
def Covers (src : Source) (evs : List Event) (after : List Int) (handle : Int) : Prop :=
  ∃ m, src.Reachable m ∧ m.handle = handle ∧ (∀ ev ∈ enterEvents src m, ev ∈ evs) ∧
    ∀ e ∈ Listing.entries (src.children m), (∀ ev ∈ entryEvents .subkeys m e, ev ∈ evs) ∧
      ∀ c, e.good? = some c → c.handle ∈ after

theorem Covers.mono {evs evs' : List Event} {after' : List Int} {handle : Int}
    (h : Covers src evs after handle) (hevs : ∀ ev ∈ evs, ev ∈ evs')
    (hafter : ∀ k ∈ after, k ∈ after') : Covers src evs' after' handle := by
  obtain ⟨m, hm, hh, henter, hrest⟩ := h
  refine ⟨m, hm, hh, fun ev hev => hevs ev (henter ev hev), fun e he => ?_⟩
  exact ⟨fun ev hev => hevs ev ((hrest e he).1 ev hev),
    fun c hc => hafter _ ((hrest e he).2 c hc)⟩

/-- What reading the entries `rest` has done: all of them are met, and every handle that is new is
covered. -/
structure Exhausts (src : Source) (entered : List Int) (n : Node) (rest : List (Entry Node))
    (evs : List Event) (after : List Int) : Prop where
  grows : ∀ h ∈ entered, h ∈ after
  met : ∀ e ∈ rest, (∀ ev ∈ entryEvents .subkeys n e, ev ∈ evs) ∧
    ∀ c, e.good? = some c → c.handle ∈ after
  covers : ∀ h ∈ after, h ∈ entered ∨ Covers src evs after h

theorem exhausts_inside {rest : List (Entry Node)} {evs : List Event}
    (h : Inside src entered n rest evs after) (hn : src.Reachable n) (hb : Belong src n rest) :
    Exhausts src entered n rest evs after := by
  induction h with
  | nil => exact ⟨fun h hh => hh, by simp, fun h hh => .inl hh⟩
  | @bad entered n e rest behind after he _ ih =>
    obtain ⟨hg, hmet, hcov⟩ := ih hn hb.tail
    refine ⟨hg, fun e' he' => ?_, fun h hh => (hcov h hh).imp_right fun hc =>
      hc.mono (fun ev hev => List.mem_append_right _ hev) fun k hk => hk⟩
    rcases List.mem_cons.mp he' with rfl | he'
    · exact ⟨fun ev hev => List.mem_append_left _ hev, fun c hc => by rw [he] at hc; cases hc⟩
    · exact ⟨fun ev hev => List.mem_append_right _ ((hmet e' he').1 ev hev), (hmet e' he').2⟩
  | @again entered n e child rest behind after he hc _ ih =>
    obtain ⟨hg, hmet, hcov⟩ := ih hn hb.tail
    have hsub : ∀ ev ∈ behind, ev ∈ entryEvents .subkeys n e ++
        .malformed (.revisited child.handle n.handle) .subkeys n :: behind :=
      fun ev hev => List.mem_append_right _ (List.mem_cons_of_mem _ hev)
    refine ⟨hg, fun e' he' => ?_, fun h hh => (hcov h hh).imp_right fun hc =>
      hc.mono hsub fun k hk => hk⟩
    rcases List.mem_cons.mp he' with rfl | he'
    · refine ⟨fun ev hev => List.mem_append_left _ hev, fun c hc' => ?_⟩
      rw [he] at hc'
      cases hc'
      exact hg _ hc
    · exact ⟨fun ev hev => hsub ev ((hmet e' he').1 ev hev), (hmet e' he').2⟩
  | @fresh entered n e child rest here between behind after he hc _ _ ihChild ihRest =>
    have hchild := Reaches.child hn (hb.good he)
    obtain ⟨hg, hmet, hcov⟩ := ihChild hchild fun _ h => h
    obtain ⟨hg', hmet', hcov'⟩ := ihRest hn hb.tail
    have hsub : ∀ ev ∈ around src child here, ev ∈ entryEvents .subkeys n e ++
        around src child here ++ behind :=
      fun ev hev => List.mem_append_left _ (List.mem_append_right _ hev)
    have hhere : ∀ ev ∈ here, ev ∈ entryEvents .subkeys n e ++ around src child here ++ behind :=
      fun ev hev => hsub ev (List.mem_append_left _ (List.mem_append_right _ hev))
    have hself : Covers src (entryEvents .subkeys n e ++ around src child here ++ behind) after
        child.handle := by
      refine ⟨child, hchild, rfl, fun ev hev => ?_, fun e' he' => ?_⟩
      · exact hsub ev (List.mem_append_left _ (List.mem_append_left _ hev))
      · exact ⟨fun ev hev => hhere ev ((hmet e' he').1 ev hev),
          fun c hc' => hg' _ ((hmet e' he').2 c hc')⟩
    refine ⟨fun h hh => hg' h (hg h (List.mem_cons_of_mem _ hh)), fun e' he' => ?_,
      fun h hh => ?_⟩
    · rcases List.mem_cons.mp he' with rfl | he'
      · refine ⟨fun ev hev => List.mem_append_left _ (List.mem_append_left _ hev),
          fun c hc' => ?_⟩
        rw [he] at hc'
        cases hc'
        exact hg' _ (hg _ List.mem_cons_self)
      · exact ⟨fun ev hev => List.mem_append_right _ ((hmet' e' he').1 ev hev), (hmet' e' he').2⟩
    · rcases hcov' h hh with hb | hcov'
      · rcases hcov h hb with hb | hcov
        · rcases List.mem_cons.mp hb with rfl | hb
          · exact .inr hself
          · exact .inl hb
        · exact .inr (hcov.mono hhere hg')
      · exact .inr (hcov'.mono (fun ev hev => List.mem_append_right _ hev) fun k hk => hk)

/-- **A walk covers every handle that can be reached**, if a node's subkeys are known by its
handle. -/
theorem covers_of_reachable (hkey : ∀ a b : Node, a.handle = b.handle →
    src.children a = src.children b) {evs : List Event} (h : Recursive src evs) :
    ∃ after, ∀ m, src.Reachable m → Covers src evs after m.handle := by
  obtain ⟨inside, after, hin, rfl⟩ := h
  obtain ⟨hg, hmet, hcov⟩ := exhausts_inside hin .root fun _ h => h
  have hinside : ∀ ev ∈ inside, ev ∈ around src src.root inside :=
    fun ev hev => List.mem_append_left _ (List.mem_append_right _ hev)
  have hroot : Covers src (around src src.root inside) after src.root.handle := by
    refine ⟨src.root, .root, rfl, fun ev hev => ?_, fun e he => ?_⟩
    · exact List.mem_append_left _ (List.mem_append_left _ hev)
    · exact ⟨fun ev hev => hinside ev ((hmet e he).1 ev hev), (hmet e he).2⟩
  have hall : ∀ k ∈ after, Covers src (around src src.root inside) after k := by
    intro k hk
    rcases hcov k hk with hk | hk
    · rw [List.mem_singleton.mp hk]
      exact hroot
    · exact hk.mono hinside fun j hj => hj
  refine ⟨after, fun m hm => ?_⟩
  induction hm with
  | root => exact hroot
  | @child p c hp hc ih =>
    obtain ⟨q, -, hq, -, hrest⟩ := ih
    obtain ⟨e, he, hgood⟩ := List.mem_filterMap.mp hc
    rw [hkey p q hq.symm] at he
    exact hall _ ((hrest e he).2 c hgood)

end HiveDump.Walk
