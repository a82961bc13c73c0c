import HiveDump.Text.Utf16

/-!
# UTF-16 is read as it is written

Reading is strict, so it does not only undo writing: bytes that nothing writes have no reading.

Results:
* `units?_eq_some`, `ofUnits?_eq_some`: this for the bytes of units, and for units;
* **`decode?_eq_some`**: bytes are read as the text that is written as them, if there is one;
* `isText_iff`, `decode?_eq_none_iff`: bytes that store no text have no reading;
* `decode?_encode_append`: a text in front of bytes is read with the text that they store.
-/

namespace HiveDump.Utf16

/-! ## Units -/

/-- Whether a number fits a unit. -/
def IsUnit (u : Nat) : Prop :=
  u < 0x10000

theorem units?_append {u : Nat} (hu : IsUnit u) (b : Bytes) :
    units? (unitBytes u ++ b) = (units? b).map (u :: ·) := by
  have hlo : (UInt8.ofNat u).toNat + 256 * (UInt8.ofNat (u / 256)).toNat = u := by
    unfold IsUnit at hu
    simp only [UInt8.toNat_ofNat']
    omega
  change units? (UInt8.ofNat u :: UInt8.ofNat (u / 256) :: b) = _
  rw [units?, hlo]

/-- Units in front of bytes. -/
theorem units?_flatMap_append {us : List Nat} (hus : ∀ u ∈ us, IsUnit u) (b : Bytes) :
    units? (us.flatMap unitBytes ++ b) = (units? b).map (us ++ ·) := by
  induction us with
  | nil => exact Option.map_id'.symm
  | cons u us ih =>
    obtain ⟨hu, hus⟩ := List.forall_mem_cons.mp hus
    rw [List.flatMap_cons, List.append_assoc, units?_append hu, ih hus, Option.map_map]
    rfl

theorem isUnit_two (lo hi : UInt8) : IsUnit (lo.toNat + 256 * hi.toNat) := by
  have := lo.toNat_lt
  have := hi.toNat_lt
  unfold IsUnit
  omega

theorem unitBytes_two (lo hi : UInt8) : unitBytes (lo.toNat + 256 * hi.toNat) = [lo, hi] := by
  have hlo := lo.toNat_lt
  have hlow : UInt8.ofNat (lo.toNat + 256 * hi.toNat) = lo := by
    apply UInt8.toNat_inj.mp
    rw [UInt8.toNat_ofNat']
    omega
  have hhigh : (lo.toNat + 256 * hi.toNat) / 256 = hi.toNat := by omega
  simp only [unitBytes, Bytes.ofLittleEndian, hlow, hhigh, UInt8.ofNat_toNat]

/-- The units of bytes are those that are written as them. -/
theorem units?_eq_some {b : Bytes} {us : List Nat} :
    units? b = some us ↔ (∀ u ∈ us, IsUnit u) ∧ us.flatMap unitBytes = b := by
  constructor
  · intro h
    fun_induction units? b generalizing us with
    | case1 => cases h; simp
    | case2 => cases h
    | case3 lo hi rest ih =>
      obtain ⟨us, hrest, rfl⟩ := Option.map_eq_some_iff.mp h
      obtain ⟨hall, hbytes⟩ := ih hrest
      refine ⟨List.forall_mem_cons.mpr ⟨isUnit_two lo hi, hall⟩, ?_⟩
      rw [List.flatMap_cons, unitBytes_two, hbytes]
      rfl
  · rintro ⟨hall, rfl⟩
    have happend := units?_flatMap_append hall []
    rw [List.append_nil] at happend
    rw [happend, units?, Option.map_some, List.append_nil]

/-! ## Characters -/

theorem toNat_ofNat {n : Nat} (h : n.isValidChar) : (Char.ofNat n).toNat = n := by
  rw [Char.ofNat, dif_pos h]
  rfl

theorem toNat_range (c : Char) : c.toNat < 0xD800 ∨ 0xDFFF < c.toNat ∧ c.toNat < 0x110000 :=
  c.valid

/-- A unit that is no surrogate is a character. -/
theorem unitsOf_ofNat {u : Nat} (hu : IsUnit u) (hh : isHigh u = false) (hl : isLow u = false) :
    unitsOf (Char.ofNat u) = [u] := by
  unfold IsUnit at hu
  have hvalid : u.isValidChar := by
    simp only [isHigh, isLow, Bool.and_eq_false_iff, decide_eq_false_iff_not] at hh hl
    unfold Nat.isValidChar
    omega
  rw [unitsOf, toNat_ofNat hvalid, if_pos hu]

/-- A surrogate with its partner is a character. -/
theorem unitsOf_pair {high low : Nat} (hh : isHigh high = true) (hl : isLow low = true) :
    unitsOf (pair high low) = [high, low] := by
  simp only [isHigh, isLow, Bool.and_eq_true, decide_eq_true_eq] at hh hl
  obtain ⟨n, hn⟩ : ∃ n, n = 0x10000 + (high - 0xD800) * 0x400 + (low - 0xDC00) := ⟨_, rfl⟩
  have hvalid : n.isValidChar := by
    unfold Nat.isValidChar
    omega
  have hhigh : 0xD800 + (n - 0x10000) / 0x400 = high := by omega
  have hlow : 0xDC00 + (n - 0x10000) % 0x400 = low := by omega
  rw [unitsOf, pair, ← hn, toNat_ofNat hvalid, if_neg (by omega), hhigh, hlow]

theorem isUnit_of_mem_unitsOf {c : Char} : ∀ u ∈ unitsOf c, IsUnit u := by
  intro u hu
  have := toNat_range c
  unfold unitsOf at hu
  unfold IsUnit
  split at hu
  · rw [List.mem_singleton] at hu
    omega
  · simp only [List.mem_cons, List.not_mem_nil, or_false] at hu
    omega

/-- The units of a character in front of others. -/
theorem ofUnits?_append (c : Char) (us : List Nat) :
    ofUnits? (unitsOf c ++ us) = (ofUnits? us).map (c :: ·) := by
  have hrange := toNat_range c
  unfold unitsOf
  split
  next hlt =>
    have hh : isHigh c.toNat = false := by
      simp only [isHigh, Bool.and_eq_false_iff, decide_eq_false_iff_not]
      omega
    have hl : isLow c.toNat = false := by
      simp only [isLow, Bool.and_eq_false_iff, decide_eq_false_iff_not]
      omega
    cases us with
    | nil => simp [ofUnits?, hh, hl]
    | cons u us => simp [ofUnits?, hh, hl]
  next hge =>
    have hh : isHigh (0xD800 + (c.toNat - 0x10000) / 0x400) = true := by
      simp only [isHigh, Bool.and_eq_true, decide_eq_true_eq]
      omega
    have hl : isLow (0xDC00 + (c.toNat - 0x10000) % 0x400) = true := by
      simp only [isLow, Bool.and_eq_true, decide_eq_true_eq]
      omega
    have hpair : pair (0xD800 + (c.toNat - 0x10000) / 0x400)
        (0xDC00 + (c.toNat - 0x10000) % 0x400) = c := by
      have hnat : 0x10000 + (0xD800 + (c.toNat - 0x10000) / 0x400 - 0xD800) * 0x400 +
          (0xDC00 + (c.toNat - 0x10000) % 0x400 - 0xDC00) = c.toNat := by omega
      rw [pair, hnat, Char.ofNat_toNat]
    simp only [List.cons_append, List.nil_append, ofUnits?, hh, hl, hpair, if_true]

/-- Units are read as the characters that are written as them. -/
theorem ofUnits?_eq_some {us : List Nat} (hall : ∀ u ∈ us, IsUnit u) {cs : List Char} :
    ofUnits? us = some cs ↔ cs.flatMap unitsOf = us := by
  constructor
  · intro h
    fun_induction ofUnits? us generalizing cs with
    | case1 => cases h; rfl
    | case2 u hs => cases h
    | case3 u hs =>
      cases h
      simp only [Bool.or_eq_true, not_or, Bool.not_eq_true] at hs
      rw [List.flatMap_cons, unitsOf_ofNat (hall u List.mem_cons_self) hs.1 hs.2]
      rfl
    | case4 u v rest hh hl ih =>
      obtain ⟨cs, hrest, rfl⟩ := Option.map_eq_some_iff.mp h
      rw [List.flatMap_cons, unitsOf_pair hh hl, ih
        (fun w hw => hall w (List.mem_cons_of_mem _ (List.mem_cons_of_mem _ hw))) hrest]
      rfl
    | case5 u v rest hh hl => cases h
    | case6 u v rest hh hl => cases h
    | case7 u v rest hh hl ih =>
      obtain ⟨cs, hrest, rfl⟩ := Option.map_eq_some_iff.mp h
      rw [Bool.not_eq_true] at hh hl
      rw [List.flatMap_cons, unitsOf_ofNat (hall u List.mem_cons_self) hh hl,
        ih (fun w hw => hall w (List.mem_cons_of_mem _ hw)) hrest]
      rfl
  · rintro rfl
    clear hall
    induction cs with
    | nil => rfl
    | cons c cs ih => rw [List.flatMap_cons, ofUnits?_append, ih]; rfl

/-! ## Texts -/

/-- **Bytes are read as the text that is written as them**, if there is one. -/
theorem decode?_eq_some {b : Bytes} {cs : List Char} : decode? b = some cs ↔ encode cs = b := by
  unfold decode? encode
  rw [Option.bind_eq_some_iff]
  constructor
  · rintro ⟨us, hunits, hchars⟩
    obtain ⟨hall, hbytes⟩ := units?_eq_some.mp hunits
    rw [(ofUnits?_eq_some hall).mp hchars, hbytes]
  · intro h
    have hall : ∀ u ∈ cs.flatMap unitsOf, IsUnit u := by
      intro u hu
      obtain ⟨c, -, hc⟩ := List.mem_flatMap.mp hu
      exact isUnit_of_mem_unitsOf u hc
    exact ⟨cs.flatMap unitsOf, units?_eq_some.mpr ⟨hall, h⟩, (ofUnits?_eq_some hall).mpr rfl⟩

/-- Whether bytes store a text. -/
def IsText (b : Bytes) : Prop :=
  ∃ t : String, encode t.toList = b

/-- Bytes have a reading exactly if they store a text. -/
theorem isText_iff {b : Bytes} : IsText b ↔ ∃ cs, decode? b = some cs := by
  constructor
  · rintro ⟨t, ht⟩
    exact ⟨t.toList, decode?_eq_some.mpr ht⟩
  · rintro ⟨cs, hcs⟩
    refine ⟨String.ofList cs, ?_⟩
    rw [String.toList_ofList]
    exact decode?_eq_some.mp hcs

theorem decode?_eq_none_iff {b : Bytes} : decode? b = none ↔ ¬ IsText b := by
  rw [isText_iff, not_exists, Option.eq_none_iff_forall_ne_some]

theorem decodeName?_eq_some {b : Bytes} {t : String} :
    decodeName? b = some t ↔ encode t.toList = b := by
  rw [← decode?_eq_some, decodeName?, Option.map_eq_some_iff]
  constructor
  · rintro ⟨cs, hcs, rfl⟩
    rwa [String.toList_ofList]
  · intro h
    exact ⟨t.toList, h, String.ofList_toList⟩

/-! ## Texts in front of bytes -/

theorem encode_cons (c : Char) (cs : List Char) :
    encode (c :: cs) = (unitsOf c).flatMap unitBytes ++ encode cs := by
  rw [encode, List.flatMap_cons, List.flatMap_append, encode]

/-- The bytes of a character in front of others. -/
theorem decode?_char_append (c : Char) (b : Bytes) :
    decode? ((unitsOf c).flatMap unitBytes ++ b) = (decode? b).map (c :: ·) := by
  rw [decode?, units?_flatMap_append isUnit_of_mem_unitsOf, decode?]
  cases units? b with
  | none => rfl
  | some us => exact ofUnits?_append c us

/-- A text in front of bytes is read with the text that they store; if they store none, nothing is
read. -/
theorem decode?_encode_append (cs : List Char) (b : Bytes) :
    decode? (encode cs ++ b) = (decode? b).map (cs ++ ·) := by
  induction cs with
  | nil => exact Option.map_id'.symm
  | cons c cs ih =>
    rw [encode_cons, List.append_assoc, decode?_char_append, ih, Option.map_map]
    rfl

end HiveDump.Utf16
