import HiveDump.Image.Item
import HiveDump.Proofs.Text.Terminated

/-!
# Which bytes are text

Bytes store a text if they are an even number and the surrogates among their units stand in pairs, a
high one in front of a low one. That is all: a mark of the byte order is a character like any other,
and so is a zero unit.

A terminated text is read from its front, the bytes ahead of the first zero unit. Units are counted
from the start, so two zero bytes that belong to different units end nothing, and without a zero
unit the front is all of the bytes, with an odd one at the end.

Results:
* **`isText_iff_paired`**: the bytes that store a text;
* `isFront_iff`: the front of a terminated text;
* **`reads_exactly`**: what is read of names and of terminated texts is what is stored, and nothing
  is read where nothing is stored.
-/

namespace HiveDump.Utf16

/-! ## Units by position -/

/-- The unit at a position; behind the last one there are zeros. -/
def unitAt (b : Bytes) (i : Nat) : Nat :=
  (b.getD (2 * i) 0).toNat + 256 * (b.getD (2 * i + 1) 0).toNat

theorem unitAt_zero (lo hi : UInt8) (rest : Bytes) :
    unitAt (lo :: hi :: rest) 0 = lo.toNat + 256 * hi.toNat := rfl

theorem unitAt_succ (lo hi : UInt8) (rest : Bytes) (i : Nat) :
    unitAt (lo :: hi :: rest) (i + 1) = unitAt rest i := rfl

/-- An even number of bytes is read as units, position by position. -/
theorem units?_of_even {b : Bytes} (h : b.length % 2 = 0) :
    ∃ us, units? b = some us ∧ ∀ i, us.getD i 0 = unitAt b i := by
  fun_induction units? b with
  | case1 => exact ⟨[], rfl, fun i => rfl⟩
  | case2 x => simp at h
  | case3 lo hi rest ih =>
    rw [List.length_cons, List.length_cons] at h
    obtain ⟨us, hus, hunits⟩ := ih (by omega)
    refine ⟨(lo.toNat + 256 * hi.toNat) :: us, by rw [hus]; rfl, fun i => ?_⟩
    cases i with
    | zero => rfl
    | succ i => exact hunits i

theorem units?_of_odd {b : Bytes} (h : b.length % 2 = 1) : units? b = none := by
  fun_induction units? b with
  | case1 => simp at h
  | case2 x => rfl
  | case3 lo hi rest ih =>
    rw [List.length_cons, List.length_cons] at h
    rw [ih (by omega), Option.map_none]

/-! ## Surrogates in pairs -/

/-- Whether a low surrogate stands exactly where a high one stands in front. -/
structure Paired (unit : Nat → Nat) : Prop where
  first : isLow (unit 0) = false
  next : ∀ i, isLow (unit (i + 1)) = isHigh (unit i)

theorem not_isLow_of_isHigh {u : Nat} (h : isHigh u = true) : isLow u = false := by
  simp only [isHigh, isLow, Bool.and_eq_true, decide_eq_true_eq, Bool.and_eq_false_iff,
    decide_eq_false_iff_not] at h ⊢
  omega

theorem not_isHigh_of_isLow {u : Nat} (h : isLow u = true) : isHigh u = false := by
  simp only [isHigh, isLow, Bool.and_eq_true, decide_eq_true_eq, Bool.and_eq_false_iff,
    decide_eq_false_iff_not] at h ⊢
  omega

theorem paired_nil : Paired (([] : List Nat).getD · 0) :=
  ⟨rfl, fun _ => rfl⟩

/-- One unit in front of others. -/
theorem paired_cons {u : Nat} {us : List Nat} :
    Paired ((u :: us).getD · 0) ↔ isLow u = false ∧ isLow (us.getD 0 0) = isHigh u ∧
      ∀ i, isLow (us.getD (i + 1) 0) = isHigh (us.getD i 0) := by
  constructor
  · intro h
    exact ⟨h.first, h.next 0, fun i => h.next (i + 1)⟩
  · rintro ⟨hfirst, hsecond, hnext⟩
    refine ⟨hfirst, fun i => ?_⟩
    cases i with
    | zero => exact hsecond
    | succ i => exact hnext i

/-- A unit that is no surrogate in front of others. -/
theorem paired_cons_of_not {u : Nat} {us : List Nat} (hh : isHigh u = false)
    (hl : isLow u = false) : Paired ((u :: us).getD · 0) ↔ Paired (us.getD · 0) := by
  rw [paired_cons, hh]
  exact ⟨fun h => ⟨h.2.1, h.2.2⟩, fun h => ⟨hl, h.first, h.next⟩⟩

/-- A pair in front of others. -/
theorem paired_cons_pair {u v : Nat} {us : List Nat} (hh : isHigh u = true) (hl : isLow v = true) :
    Paired ((u :: v :: us).getD · 0) ↔ Paired (us.getD · 0) := by
  have hv := not_isHigh_of_isLow hl
  rw [paired_cons]
  constructor
  · rintro ⟨-, -, hnext⟩
    exact ⟨(hnext 0).trans hv, fun i => hnext (i + 1)⟩
  · intro h
    refine ⟨not_isLow_of_isHigh hh, hl.trans hh.symm, fun i => ?_⟩
    cases i with
    | zero => exact h.first.trans hv.symm
    | succ i => exact h.next i

/-- Units are read exactly if surrogates stand in pairs. -/
theorem isSome_ofUnits?_iff (us : List Nat) :
    (ofUnits? us).isSome = true ↔ Paired (us.getD · 0) := by
  fun_induction ofUnits? us with
  | case1 => exact iff_of_true rfl paired_nil
  | case2 u hs =>
    refine iff_of_false Bool.false_ne_true fun h => ?_
    have hlow : isLow u = false := h.first
    have hhigh : isHigh u = false := (h.next 0).symm
    rw [hlow, hhigh] at hs
    exact Bool.false_ne_true hs
  | case3 u hs =>
    simp only [Bool.or_eq_true, not_or, Bool.not_eq_true] at hs
    exact iff_of_true rfl ((paired_cons_of_not hs.1 hs.2).mpr paired_nil)
  | case4 u v rest hh hl ih => rw [Option.isSome_map, ih, paired_cons_pair hh hl]
  | case5 u v rest hh hl =>
    exact iff_of_false Bool.false_ne_true fun h => hl ((h.next 0).trans hh)
  | case6 u v rest hh hl =>
    exact iff_of_false Bool.false_ne_true fun h => Bool.false_ne_true (h.first.symm.trans hl)
  | case7 u v rest hh hl ih =>
    rw [Bool.not_eq_true] at hh hl
    rw [Option.isSome_map, ih, paired_cons_of_not hh hl]

/-- **Bytes store a text exactly if they are an even number and their surrogates stand in
pairs.** -/
theorem isText_iff_paired (b : Bytes) : IsText b ↔ b.length % 2 = 0 ∧ Paired (unitAt b) := by
  rw [isText_iff, ← Option.isSome_iff_exists, decode?]
  rcases Nat.mod_two_eq_zero_or_one b.length with heven | hodd
  · obtain ⟨us, hus, hunits⟩ := units?_of_even heven
    rw [hus, Option.bind_some, isSome_ofUnits?_iff, funext hunits]
    exact (and_iff_right heven).symm
  · rw [units?_of_odd hodd, hodd]
    exact iff_of_false Bool.false_ne_true fun h => Nat.one_ne_zero h.1

/-! ## In front of the first zero unit -/

/-- Whether there is a unit at a position, and it is zero. -/
def ZeroAt (b : Bytes) (i : Nat) : Prop :=
  2 * i + 1 < b.length ∧ unitAt b i = 0

/-- Whether bytes are those ahead of the first zero unit, or all of them if there is none. -/
def IsFront (b front : Bytes) : Prop :=
  (∃ i, ZeroAt b i ∧ (∀ j < i, ¬ ZeroAt b j) ∧ front = b.take (2 * i)) ∨
    (∀ i, ¬ ZeroAt b i) ∧ front = b

theorem zeroAt_zero {lo hi : UInt8} {rest : Bytes} :
    ZeroAt (lo :: hi :: rest) 0 ↔ lo = 0 ∧ hi = 0 := by
  rw [ZeroAt, unitAt_zero, ← UInt8.toNat_inj, ← UInt8.toNat_inj]
  simp only [List.length_cons, UInt8.toNat_zero]
  omega

theorem zeroAt_succ {lo hi : UInt8} {rest : Bytes} {i : Nat} :
    ZeroAt (lo :: hi :: rest) (i + 1) ↔ ZeroAt rest i := by
  rw [ZeroAt, unitAt_succ, ZeroAt, List.length_cons, List.length_cons]
  omega

/-- One unit that is not zero stands ahead. -/
theorem IsFront.cons {rest front : Bytes} (h : IsFront rest front) {lo hi : UInt8}
    (hne : ¬ (lo = 0 ∧ hi = 0)) : IsFront (lo :: hi :: rest) (lo :: hi :: front) := by
  rcases h with ⟨i, hzero, hfirst, rfl⟩ | ⟨hnone, rfl⟩
  · refine .inl ⟨i + 1, zeroAt_succ.mpr hzero, fun j hj => ?_, rfl⟩
    cases j with
    | zero => exact mt zeroAt_zero.mp hne
    | succ j => exact mt zeroAt_succ.mp (hfirst j (Nat.lt_of_succ_lt_succ hj))
  · refine .inr ⟨fun i => ?_, rfl⟩
    cases i with
    | zero => exact mt zeroAt_zero.mp hne
    | succ i => exact mt zeroAt_succ.mp (hnone i)

theorem isFront_untilNul (b : Bytes) : IsFront b (untilNul b) := by
  fun_induction untilNul b with
  | case1 lo hi rest hzero =>
    exact .inl ⟨0, zeroAt_zero.mpr hzero, fun j hj => absurd hj (Nat.not_lt_zero j), rfl⟩
  | case2 lo hi rest hne ih => exact ih.cons hne
  | case3 short hshort =>
    refine .inr ⟨fun i hi => ?_, rfl⟩
    rcases short with _ | ⟨lo, _ | ⟨hi', rest⟩⟩
    · exact absurd hi.1 (by simp)
    · exact absurd hi.1 (by simp)
    · exact hshort lo hi' rest rfl

theorem IsFront.unique {b front front' : Bytes} (h : IsFront b front) (h' : IsFront b front') :
    front = front' := by
  rcases h with ⟨i, hzero, hfirst, rfl⟩ | ⟨hnone, rfl⟩
  · rcases h' with ⟨i', hzero', hfirst', rfl⟩ | ⟨hnone', -⟩
    · have hle : i' ≤ i := Nat.le_of_not_lt fun hlt => hfirst' i hlt hzero
      have hge : i ≤ i' := Nat.le_of_not_lt fun hlt => hfirst i' hlt hzero'
      rw [Nat.le_antisymm hle hge]
    · exact absurd hzero (hnone' i)
  · rcases h' with ⟨i', hzero', -, -⟩ | ⟨-, rfl⟩
    · exact absurd hzero' (hnone i')
    · rfl

/-- The front of bytes is what is cut off them. -/
theorem isFront_iff {b front : Bytes} : IsFront b front ↔ front = untilNul b :=
  ⟨fun h => h.unique (isFront_untilNul b), fun h => h ▸ isFront_untilNul b⟩

/-! ## What is read -/

theorem decodeName?_eq_none_iff {b : Bytes} : decodeName? b = none ↔ ¬ IsText b := by
  rw [decodeName?, Option.map_eq_none_iff, decode?_eq_none_iff]

/-- **What is read is what is stored.** A name is read as the text that is stored as its bytes, and
not at all if there is none; a terminated text is read in the same way from its front, and there is
one front. -/
theorem reads_exactly (b : Bytes) :
    (∀ t : String, decodeStoredName false b = some t ↔ encode t.toList = b) ∧
      (decodeStoredName false b = none ↔ ¬ IsText b) ∧
      ∃ front, (∀ other, IsFront b other ↔ other = front) ∧
        (∀ t : String, decodeString? b = some t ↔ encode t.toList = front) ∧
        (decodeString? b = none ↔ ¬ IsText front) := by
  have hname : decodeStoredName false b = decodeName? b := rfl
  have hstring : decodeString? b = decodeName? (untilNul b) := rfl
  rw [hname, hstring]
  exact ⟨fun _ => decodeName?_eq_some, decodeName?_eq_none_iff, untilNul b, fun _ => isFront_iff,
    fun _ => decodeName?_eq_some, decodeName?_eq_none_iff⟩

/-- A mark of the byte order is a character, and a pair in the wrong order is no text. -/
example : decodeStoredName false [0xFF, 0xFE] = some "\uFEFF" ∧
    decodeStoredName false [0x3D, 0xDE, 0x00, 0xD8] = none ∧
    decodeString? [0x61, 0x00, 0x00, 0x01, 0x00, 0x00, 0x00] = some "aĀ" := by
  decide

end HiveDump.Utf16
