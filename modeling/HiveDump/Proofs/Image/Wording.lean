import HiveDump.Proofs.Image.FreeCells
import HiveDump.Proofs.Image.Values
import HiveDump.Proofs.Report.Printable

/-!
# The wording of what spoils an image

Whatever is wrong with an image, its fault is worded with numbers, letters of records and fixed
phrases only, in one line of printable text. No name that stands in the image occurs in it.

Results:
* `printable_recordFault`, `printable_ofReading`: a fault before what it spoils is named;
* **`printable_children`**, **`printable_values`**: the faults of the lists of a node.
-/

namespace HiveDump

/-! ## Parts of wordings -/

namespace Report

theorem printable_append {s t : String} : Printable (s ++ t) ↔ Printable s ∧ Printable t := by
  simp [Printable, or_imp, forall_and]

/-- A decimal without a sign. -/
theorem printable_natural (n : Nat) : Printable (toString n) :=
  printable_decimal n

theorem isPrintableChar_digitChar (k : Nat) : IsPrintableChar (Nat.digitChar k) := by
  have hdigits : ∀ k < 16, IsPrintableChar (Nat.digitChar k) := by decide
  rcases Nat.lt_or_ge k 16 with hlt | hge
  · exact hdigits k hlt
  · have hstar : Nat.digitChar k = '*' := by
      unfold Nat.digitChar
      repeat rw [if_neg (by omega)]
    rw [hstar]
    decide

/-- The digits of a number in any base. -/
theorem isPrintableChar_of_mem_toDigits {b n : Nat} (hb : 1 < b) :
    ∀ c ∈ Nat.toDigits b n, IsPrintableChar c := by
  induction n using Nat.strongRecOn with
  | ind n ih =>
    rw [Nat.toDigits_eq_if hb]
    split
    · rw [List.forall_mem_singleton]
      exact isPrintableChar_digitChar n
    next hle =>
      have hpos : 0 < n := Nat.lt_of_lt_of_le (by omega) (Nat.not_lt.mp hle)
      rw [List.forall_mem_append, List.forall_mem_singleton]
      exact ⟨ih (n / b) (Nat.div_lt_self hpos hb), isPrintableChar_digitChar _⟩

theorem printable_hexadecimal (n : Int) : Printable (RecordFault.hexadecimal n) := by
  have hdigits : Printable (String.ofList (Nat.toDigits 16 n.natAbs)) :=
    printable_ofList (isPrintableChar_of_mem_toDigits (by decide))
  unfold RecordFault.hexadecimal
  dsimp only
  split
  · exact printable_append.mpr ⟨by decide, hdigits⟩
  · exact printable_append.mpr ⟨by decide, hdigits⟩

/-- Bytes in hexadecimal. -/
theorem printable_hex (width : Nat) (b : Bytes) :
    Printable (String.ofList (b.flatMap fun x => Quoted.hex width x.toNat)) := by
  refine printable_ofList fun c hc => ?_
  obtain ⟨x, -, hc⟩ := List.mem_flatMap.mp hc
  rcases List.mem_append.mp hc with hc | hc
  · rw [(List.mem_replicate.mp hc).2]
    decide
  · exact isPrintableChar_of_mem_toDigits (by decide) c hc

end Report

open Report

/-! ## Faults of records -/

theorem printable_complaint (f : RecordFault) : Printable f.complaint := by
  cases f with
  | notARecord kind =>
    unfold RecordFault.complaint
    simp only [printable_append]
    exact ⟨⟨by decide, by cases kind <;> decide⟩, by decide⟩
  | unknownList letters =>
    unfold RecordFault.complaint
    simp only [printable_append]
    exact ⟨⟨by decide, printable_hex 2 letters⟩, by decide⟩
  | notAList offset =>
    unfold RecordFault.complaint
    exact printable_append.mpr ⟨by decide, printable_decimal offset⟩
  | freeCell offset =>
    unfold RecordFault.complaint
    exact printable_append.mpr ⟨by decide, printable_hexadecimal offset⟩
  | notAHive => decide
  | notABin => decide
  | pastEnd offset width size => exact (by decide : Printable "")
  | acrossStart offset width => exact (by decide : Printable "")
  | beforeStart offset size => exact (by decide : Printable "")

theorem printable_recordFault (f : RecordFault) : Printable f.message := by
  have hwrapped : Printable s!"Registry Parse Exception ({f.complaint})" :=
    printable_append.mpr
      ⟨printable_append.mpr ⟨by decide, printable_complaint f⟩, by decide⟩
  cases f with
  | pastEnd offset width size =>
    unfold RecordFault.message
    simp only [printable_append]
    exact ⟨⟨⟨⟨⟨by decide, printable_decimal _⟩, by decide⟩, printable_natural width⟩, by decide⟩,
      ⟨⟨⟨by decide, printable_decimal offset⟩, by decide⟩, printable_natural size⟩, by decide⟩
  | acrossStart offset width =>
    unfold RecordFault.message
    simp only [printable_append]
    exact ⟨⟨⟨by decide, printable_natural width⟩, by decide⟩, printable_decimal offset⟩
  | beforeStart offset size =>
    unfold RecordFault.message
    simp only [printable_append]
    exact ⟨⟨⟨⟨by decide, printable_decimal offset⟩, by decide⟩, printable_natural size⟩, by decide⟩
  | freeCell offset =>
    unfold RecordFault.message
    exact printable_append.mpr ⟨by decide, printable_complaint (.freeCell offset)⟩
  | _ =>
    unfold RecordFault.message
    exact hwrapped

/-! ## Faults of lists and payloads -/

/-- **A fault of reading** a list or a payload. -/
theorem printable_ofReading {fault : Fault} (h : fault.OfReading) : Printable fault.message := by
  cases h with
  | record f => exact printable_recordFault f
  | wrongLength width handle length =>
    unfold Fault.message
    simp only [printable_append]
    exact ⟨⟨⟨⟨by cases width <;> decide, by decide⟩, printable_decimal handle⟩, by decide⟩,
      printable_natural length⟩
  | _ =>
    unfold Fault.message
    simp only [printable_append]
    and_intros
    all_goals first | decide | exact printable_decimal _

theorem printable_entry (list : EntryList) : Printable list.entry := by
  cases list <;> decide

theorem printable_badEntry (list : EntryList) (offset : Int) (f : RecordFault) :
    Printable (Fault.badEntry list offset f).message := by
  unfold Fault.message
  simp only [printable_append]
  exact ⟨⟨⟨⟨⟨by decide, printable_entry list⟩, by decide⟩, printable_decimal offset⟩, by decide⟩,
    printable_recordFault f⟩

theorem printable_badList (list : EntryList) (node : Int) (f : RecordFault) :
    Printable (Fault.badList list node f).message := by
  unfold Fault.message
  simp only [printable_append]
  exact ⟨⟨⟨⟨⟨by decide, printable_entry list⟩, by decide⟩, printable_decimal node⟩, by decide⟩,
    printable_recordFault f⟩

theorem printable_revisited (child node : Int) :
    Printable (Fault.revisited child node).message := by
  unfold Fault.message
  simp only [printable_append]
  exact ⟨⟨⟨⟨by decide, printable_decimal child⟩, by decide⟩, printable_decimal node⟩, by decide⟩

/-- A node that is told by no record. -/
theorem printable_noRecord (handle : Int) (f : Option RecordFault) :
    Printable (Fault.noRecord .node handle f).message := by
  have htext : Printable s!"no {RecordKind.node.letters.toLower} record at {handle}" := by
    simp only [printable_append]
    exact ⟨⟨⟨by decide, by decide +kernel⟩, by decide⟩, printable_decimal handle⟩
  cases f with
  | none => exact htext
  | some f =>
    refine printable_append.mpr ⟨printable_append.mpr ⟨?_, printable_recordFault f⟩, by decide⟩
    exact printable_append.mpr ⟨htext, by decide⟩

/-- **The fault that stopped a walk**, with the step at which it happened. -/
theorem printable_aborted (list : EntryList) (node : Int) {fault : Fault}
    (h : Printable fault.message) :
    Printable (Fault.aborted list.operation node fault).message := by
  unfold Fault.message
  simp only [printable_append]
  exact ⟨⟨⟨⟨by cases list <;> decide, by decide⟩, printable_decimal node⟩, by decide⟩, h⟩

/-! ## Lists of nodes -/

theorem printable_entryAt {α : Type} {list : EntryList} {read : Int → Except Fault α}
    {trace : α → List LogLine} {offset : Int} {fault : Fault}
    (hread : Failing.With Fault.OfReading (read offset))
    (h : (HiveFile.entryAt list read trace offset).outcome = .error fault) :
    Printable fault.message := by
  unfold HiveFile.entryAt at h
  cases hcause : read offset with
  | ok a =>
    rw [hcause] at h
    cases h
  | error cause =>
    rw [hcause] at h
    cases h
    have hwhole := hread cause hcause
    cases hwhole with
    | record f => exact printable_badEntry list offset f
    | _ => exact printable_ofReading (by constructor)

namespace HiveFile

variable {h : HiveFile} {n : Node} {fault : Fault}

/-- **The faults of a node's subkeys.** -/
theorem printable_children {e : Entry Node} (he : e ∈ Listing.entries (h.children n))
    (hfault : e.outcome = .error fault) : Printable fault.message := by
  cases hlist : h.children n with
  | ok es =>
    obtain ⟨record, cells, -, -, rfl⟩ := h.children_eq_ok.mp hlist
    rw [hlist] at he
    obtain ⟨cell, -, rfl⟩ := List.mem_map.mp he
    exact printable_entryAt (.mapError .record) hfault
  | error cause =>
    rw [hlist] at he
    cases List.mem_singleton.mp he
    cases hfault
    rcases Failing.bind_eq_error.mp hlist with hrecord | ⟨record, -, hlist⟩
    · rcases Image.recordOfHandle_cases h.image .node n.handle with hok | ⟨reason, herror⟩
      · cases hok.symm.trans hrecord
      · cases herror.symm.trans hrecord
        exact printable_noRecord n.handle reason
    · rcases Failing.bind_eq_error.mp hlist with hcells | ⟨cells, -, hlist⟩
      · obtain ⟨reason, hreason, rfl⟩ := Failing.mapError_eq_error.mp hcells
        have hread := h.image.subkeyCells_ofReading record reason hreason
        cases hread with
        | record f => exact printable_badList .subkeys n.handle f
        | _ => exact printable_ofReading (by constructor)
      · cases hlist

/-- **The faults of a node's values.** -/
theorem printable_values {e : Entry Value} (he : e ∈ Listing.entries (h.values n))
    (hfault : e.outcome = .error fault) : Printable fault.message := by
  cases hlist : h.values n with
  | ok es =>
    rw [hlist] at he
    obtain ⟨record, -, hlist⟩ := Failing.bind_eq_ok.mp hlist
    obtain ⟨cells, -, hlist⟩ := Failing.bind_eq_ok.mp hlist
    cases hlist
    obtain ⟨cell, -, rfl⟩ := List.mem_map.mp he
    exact printable_entryAt (h.image.value_ofReading cell) hfault
  | error cause =>
    rw [hlist] at he
    cases List.mem_singleton.mp he
    cases hfault
    rcases Failing.bind_eq_error.mp hlist with hrecord | ⟨record, -, hlist⟩
    · rcases Image.recordOfHandle_cases h.image .node n.handle with hok | ⟨reason, herror⟩
      · cases hok.symm.trans hrecord
      · cases herror.symm.trans hrecord
        exact printable_noRecord n.handle reason
    · rcases Failing.bind_eq_error.mp hlist with hcells | ⟨cells, -, hlist⟩
      · obtain ⟨reason, -, rfl⟩ := Failing.mapError_eq_error.mp hcells
        exact printable_badList .values n.handle reason
      · cases hlist

end HiveFile

end HiveDump
