import HiveDump.Proofs.Text.Utf16

/-!
# Texts in front of their terminators

A zero character is one zero unit, and no other character has a zero unit. So cutting the bytes of a
text at the first zero unit cuts the text at its first zero character, and what is read in front of
a terminator holds none.

Results:
* **`untilNul_encode`**: the bytes of a text up to the first zero unit;
* **`nul_not_mem_of_decodeString?`**: a text that is read in front of its terminator;
* `nul_not_mem_of_decodeStrings?`: and the texts of a list.
-/

namespace HiveDump.Utf16

/-! ## Up to the first zero unit -/

theorem unitBytes_eq_zero {u : Nat} (hu : IsUnit u) :
    UInt8.ofNat u = 0 ∧ UInt8.ofNat (u / 256) = 0 ↔ u = 0 := by
  unfold IsUnit at hu
  constructor
  · rintro ⟨hlo, hhi⟩
    have hlo' := congrArg UInt8.toNat hlo
    have hhi' := congrArg UInt8.toNat hhi
    simp only [UInt8.toNat_ofNat', UInt8.toNat_zero] at hlo' hhi'
    omega
  · rintro rfl
    exact ⟨rfl, rfl⟩

/-- A unit in front of others. -/
theorem untilNul_unit {u : Nat} (hu : IsUnit u) (b : Bytes) :
    untilNul (unitBytes u ++ b) = if u = 0 then [] else unitBytes u ++ untilNul b := by
  change untilNul (UInt8.ofNat u :: UInt8.ofNat (u / 256) :: b) = _
  rw [untilNul]
  simp only [unitBytes_eq_zero hu]
  rfl

theorem zero_mem_unitsOf {c : Char} : 0 ∈ unitsOf c ↔ c = '\x00' := by
  have hrange := toNat_range c
  unfold unitsOf
  constructor
  · intro hm
    split at hm
    · rw [List.mem_singleton] at hm
      rw [← Char.ofNat_toNat c, ← hm]
    · simp only [List.mem_cons, List.not_mem_nil, or_false] at hm
      omega
  · rintro rfl
    decide

/-- Units that are not zero, in front of bytes. -/
theorem untilNul_units {us : List Nat} (hus : ∀ u ∈ us, IsUnit u ∧ u ≠ 0) (b : Bytes) :
    untilNul (us.flatMap unitBytes ++ b) = us.flatMap unitBytes ++ untilNul b := by
  induction us with
  | nil => rfl
  | cons u us ih =>
    obtain ⟨⟨hu, hne⟩, hus⟩ := List.forall_mem_cons.mp hus
    rw [List.flatMap_cons, List.append_assoc, untilNul_unit hu, if_neg hne, ih hus,
      List.append_assoc]

/-- The bytes of a text in front of others, up to the first zero unit: those of the text up to its
first zero character, and if it has none what is in front of a zero unit behind it. -/
theorem untilNul_encode_append (cs : List Char) (b : Bytes) :
    untilNul (encode cs ++ b) =
      encode (cs.takeWhile (· ≠ '\x00')) ++ if '\x00' ∈ cs then [] else untilNul b := by
  induction cs with
  | nil => simp [encode]
  | cons c cs ih =>
    rw [encode_cons, List.append_assoc]
    by_cases hc : c = '\x00'
    · subst hc
      rw [List.takeWhile_cons_of_neg (by simp), if_pos List.mem_cons_self]
      exact untilNul_unit (u := 0) (by unfold IsUnit; decide) (encode cs ++ b)
    · have hus : ∀ u ∈ unitsOf c, IsUnit u ∧ u ≠ 0 := fun u hu =>
        ⟨isUnit_of_mem_unitsOf u hu, fun hzero => hc (zero_mem_unitsOf.mp (hzero ▸ hu))⟩
      have hmem : '\x00' ∈ c :: cs ↔ '\x00' ∈ cs := by simp [Ne.symm hc]
      rw [untilNul_units hus, ih, List.takeWhile_cons_of_pos (by simpa using hc), encode_cons,
        List.append_assoc]
      simp only [hmem]

/-- **The bytes of a text up to the first zero unit** are those of the text up to its first zero
character. -/
theorem untilNul_encode (cs : List Char) :
    untilNul (encode cs) = encode (cs.takeWhile (· ≠ '\x00')) := by
  have happend := untilNul_encode_append cs []
  simpa [untilNul] using happend

theorem untilNul_untilNul (b : Bytes) : untilNul (untilNul b) = untilNul b := by
  fun_induction untilNul b with
  | case1 lo hi rest h => rfl
  | case2 lo hi rest h ih => rw [untilNul, if_neg h, ih]
  | case3 short hshort =>
    rcases short with _ | ⟨lo, _ | ⟨hi, rest⟩⟩
    · rfl
    · rfl
    · exact (hshort lo hi rest rfl).elim

/-! ## What is read -/

theorem decode?_inj {cs cs' : List Char} (h : encode cs = encode cs') : cs = cs' := by
  have hcs := decode?_eq_some.mpr h
  rw [decode?_eq_some.mpr rfl] at hcs
  exact Option.some.inj hcs.symm

/-- **A text that is read in front of its terminator holds no zero character.** -/
theorem nul_not_mem_of_decodeString? {b : Bytes} {s : String} (h : decodeString? b = some s) :
    '\x00' ∉ s.toList := by
  obtain ⟨cs, hcs, rfl⟩ := Option.map_eq_some_iff.mp h
  rw [String.toList_ofList]
  have hb := decode?_eq_some.mp hcs
  have hcut : encode (cs.takeWhile (· ≠ '\x00')) = encode cs := by
    rw [← untilNul_encode, hb, untilNul_untilNul]
  rw [← decode?_inj hcut]
  intro hm
  simpa using List.all_eq_true.mp List.all_takeWhile _ hm

theorem nul_not_mem_pieces (cs : List Char) : ∀ p ∈ pieces cs, '\x00' ∉ p := by
  induction cs with
  | nil => simp [pieces]
  | cons c cs ih =>
    unfold pieces
    split
    · exact List.forall_mem_cons.mpr ⟨by simp, ih⟩
    next hc =>
      split
      · simpa using Ne.symm hc
      next p ps hps =>
        rw [hps] at ih
        obtain ⟨hp, hrest⟩ := List.forall_mem_cons.mp ih
        exact List.forall_mem_cons.mpr ⟨by simpa [Ne.symm hc] using hp, hrest⟩

/-- **The texts of a list** are not empty and hold no zero character. -/
theorem nul_not_mem_of_decodeStrings? {b : Bytes} {ss : List String}
    (h : decodeStrings? b = some ss) : ∀ s ∈ ss, s ≠ "" ∧ '\x00' ∉ s.toList := by
  obtain ⟨cs, -, rfl⟩ := Option.map_eq_some_iff.mp h
  intro s hs
  obtain ⟨p, hp, rfl⟩ := List.mem_map.mp hs
  rw [String.toList_ofList]
  refine ⟨fun hempty => ?_, nul_not_mem_pieces cs p ((List.takeWhile_sublist _).subset hp)⟩
  have hne : p ≠ [] := by simpa using List.all_eq_true.mp List.all_takeWhile p hp
  exact hne (by simpa using congrArg String.toList hempty)

end HiveDump.Utf16
