import HiveDump.Proofs.Conversion.ByteRuns
import HiveDump.Proofs.Conversion.Stopping
import HiveDump.Proofs.Image.SkippingWalk
import HiveDump.Proofs.Image.Stamps
import HiveDump.Proofs.Image.Wording

/-!
# Conversions of images

Apart from a time stamp across the start of its image, everything that a report asks about a node or
value of an image is answered or survived. So the conversion of an image stops at what is malformed,
unless that is skipped, at a node in a free cell, and at such a time stamp. The first two are faults
of the program's own, worded in printable text; the third is not (`HiveFile.StopsAcross`).

Results:
* `shows_events`: what a report asks about an image;
* **`stop?_of_mem_events`**: the faults that stop a conversion;
* **`result_of_stopsAcross`**, **`result_cases`**: how the conversion of an image ends.
-/

namespace HiveDump

open Report Walk

namespace Walk

/-- A malformed entry is one that could not be read. -/
theorem outcome_of_malformed {α : Type} {list list' : EntryList} {n m : Node} {e : Entry α}
    {fault : Fault} (h : .malformed fault list' m ∈ entryEvents list n e) :
    e.outcome = .error fault := by
  rcases List.mem_append.mp h with h | h
  · obtain ⟨line, -, hline⟩ := List.mem_map.mp h
    cases hline
  · cases houtcome : e.outcome with
    | ok a =>
      rw [houtcome] at h
      cases h
    | error other =>
      rw [houtcome] at h
      have hevent := List.mem_singleton.mp h
      unfold faultEvent at hevent
      split at hevent
      · cases hevent
        rfl
      · cases hevent

end Walk

namespace HiveFile

variable {path : String} {im : Image} {tracing : Bool} {h : HiveFile} {opened : List LogLine}
  {skipping : Bool} {ev : Event} {fault : Fault} {n : Node}

/-! ## What a report asks about an image -/

/-- **All that a report asks** about what is met in an image, but for time stamps. -/
theorem shows_events (ho : ofImage path im tracing = (.ok h, opened)) :
    ∀ ev ∈ events h.source, ev.Shows h.source := by
  intro ev hev
  obtain rfl := image_of_open ho
  cases ev with
  | enter n => exact survives_nodeRuns (Conversion.node_of_event ho hev)
  | value n v =>
    have hv := Conversion.value_of_event hev
    obtain ⟨-, -, hsound⟩ := Image.value_eq_ok hv
    exact ⟨exists_valueShown hsound, survives_valueRuns h hv⟩
  | _ => trivial

/-- What is malformed in an image is worded in printable text. -/
theorem printable_malformed {list : EntryList} (hev : .malformed fault list n ∈ events h.source) :
    Printable fault.message := by
  obtain ⟨m, -, hat⟩ := metAt_of_recursive (recursive_events h.source) _ hev
  cases hat with
  | value he hev =>
    rcases List.mem_append.mp hev with hev | hev
    · exact printable_values he (outcome_of_malformed hev)
    · obtain ⟨v, -, hv⟩ := Option.map_eq_some_iff.mp (Option.mem_toList.mp hev)
      cases hv
  | subkey he hev => exact printable_children he (outcome_of_malformed hev)
  | revisited => exact printable_revisited _ _

/-! ## Where a conversion stops -/

/-- A fault of the program's own that stops the conversion of an image. -/
structure OwnFault (fault : Fault) : Prop where
  kind : fault.kind = .aborted ∨ fault.kind = .invalidHandle
  printable : Printable fault.message

theorem OwnFault.isOwn (h : OwnFault fault) : fault.kind.isOwn = true := by
  rcases h.kind with hkind | hkind <;> rw [hkind] <;> rfl

/-- The fault of asking for a time stamp across the start of an image. -/
def acrossFault (n : Node) : Fault :=
  .record (.acrossStart (n.handle + 8) 8)

/-- **The faults that stop the conversion of an image.** -/
theorem stop?_of_mem_events (ho : ofImage path im tracing = (.ok h, opened))
    (hev : ev ∈ events h.source) (hstop : ev.stop? h.source skipping = some fault) :
    OwnFault fault ∨ ∃ n, ev = .enter n ∧ h.image.Straddles n.handle ∧ fault = acrossFault n := by
  obtain rfl := image_of_open ho
  cases ev with
  | enter n =>
    obtain ⟨hstamp, hr⟩ := Event.stop?_enter_eq_some.mp hstop
    have hn := Conversion.node_of_event ho hev
    rcases Image.nodeTimestamp_eq_error hn hstamp with rfl | hs
    · cases hr
    · refine .inr ⟨n, rfl, hs, ?_⟩
      exact Except.error.inj (hstamp.symm.trans (Image.nodeTimestamp_of_straddles hn hs))
  | malformed other list n =>
    cases skipping with
    | true => cases hstop
    | false =>
      cases hstop
      exact .inl ⟨.inl rfl, printable_aborted list n.handle (printable_malformed hev)⟩
  | failed other =>
    cases hstop
    obtain ⟨m, -, -, rfl⟩ := failed_noRecord ho hev
    exact .inl ⟨.inr rfl, printable_noRecord m.handle none⟩
  | note line => cases hstop
  | value n v => cases hstop
  | leave n => cases hstop

/-- Whether a conversion comes to a node whose time stamp lies across the start of the image. -/
structure StopsAcross (h : HiveFile) (skipping : Bool) (n : Node) : Prop where
  straddles : h.image.Straddles n.handle
  reached : ∃ before after, events h.source = before ++ .enter n :: after ∧
    ∀ ev ∈ before, ev.stop? h.source skipping = none

/-! ## Whole conversions -/

variable {config : Config} {policy : Policy} {trace : List LogLine}

/-- **A conversion that comes to such a node** ends with a fault that is not the program's own. -/
theorem result_of_stopsAcross (ho : ofImage path im tracing = (.ok h, opened))
    (hvalid : config.complaints = .ok []) (hencoding : config.encoding = "utf-8")
    (hpolicy : config.policy = .policy policy) (hp : policy.NeverRaises)
    (hn : h.StopsAcross config.skipBad n) :
    (Conversion.convertWith config .working (.ok h.source, trace)).result =
      .error (acrossFault n) := by
  obtain ⟨hs, before, after, hevents, hpass⟩ := hn
  obtain ⟨ticks, hlast⟩ := exists_lastModified ho
  have hmem : .enter n ∈ events h.source := by
    rw [hevents]
    exact List.mem_append_right _ List.mem_cons_self
  have hnode : h.image.node n.handle = .ok n := by
    rw [image_of_open ho]
    exact Conversion.node_of_event ho hmem
  have hstop : (Event.enter n).stop? h.source config.skipBad = some (acrossFault n) :=
    Event.stop?_enter_eq_some.mpr ⟨Image.nodeTimestamp_of_straddles hnode hs, rfl⟩
  refine Conversion.convertWith_stops hvalid hencoding hpolicy hp hlast (closesProperly_image h)
    hevents (fun ev hev => shows_events ho ev ?_) hpass hstop
  rw [hevents]
  exact List.mem_append_left _ hev

/-- **The three ways in which the conversion of an image ends.** -/
theorem result_cases (trace : List LogLine) (ho : ofImage path im tracing = (.ok h, opened))
    (hvalid : config.complaints = .ok []) (hencoding : config.encoding = "utf-8")
    (hpolicy : config.policy = .policy policy) (hp : policy.NeverRaises) :
    (∃ tally,
        (Conversion.convertWith config .working (.ok h.source, trace)).result = .ok tally) ∨
      (∃ fault, OwnFault fault ∧
        (Conversion.convertWith config .working (.ok h.source, trace)).result = .error fault) ∨
      ∃ n, h.StopsAcross config.skipBad n := by
  obtain ⟨ticks, hlast⟩ := exists_lastModified ho
  cases hfind : (events h.source).find? fun ev => (ev.stop? h.source config.skipBad).isSome with
  | none =>
    refine .inl (Conversion.convertWith_passes hvalid hencoding hpolicy hp hlast rfl
      (shows_events ho) fun ev hev => ?_)
    have hnone := List.find?_eq_none.mp hfind ev hev
    simpa using hnone
  | some ev =>
    obtain ⟨hsome, before, after, hevents, hbefore⟩ := List.find?_eq_some_iff_append.mp hfind
    obtain ⟨fault, hstop⟩ := Option.isSome_iff_exists.mp hsome
    have hpass : ∀ ev ∈ before, ev.stop? h.source config.skipBad = none := by
      intro other hother
      simpa using hbefore other hother
    have hmem : ev ∈ events h.source := by
      rw [hevents]
      exact List.mem_append_right _ List.mem_cons_self
    rcases stop?_of_mem_events ho hmem hstop with hown | ⟨n, rfl, hs, -⟩
    · refine .inr (.inl ⟨fault, hown, ?_⟩)
      refine Conversion.convertWith_stops hvalid hencoding hpolicy hp hlast
        (closesProperly_image h) hevents (fun ev hev => shows_events ho ev ?_) hpass hstop
      rw [hevents]
      exact List.mem_append_left _ hev
    · exact .inr (.inr ⟨n, hs, before, after, hevents, hpass⟩)

end HiveFile

end HiveDump
