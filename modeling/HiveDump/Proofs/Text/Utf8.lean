import HiveDump.Text.Utf8

/-!
# UTF-8 text and ASCII

An ASCII character is one byte, and every other character starts with a byte that is none of ASCII.
So text in ASCII is bytes in ASCII, and no two texts have the same bytes.

Results:
* `encodeChars_ascii`: the bytes of ASCII text;
* `infix_of_encodeChars`: text whose bytes stand in those of ASCII text stands in that text;
* **`encodeChars_injective`**, `decode?_encodeChars`: the bytes of a text are those of no other, and
  stand for it;
* `takeWhile_encodeChars`: bytes are cut at a zero byte where text is cut at a zero character.
-/

namespace HiveDump.Utf8

/-- The byte of an ASCII character. -/
def byteOf (c : Char) : UInt8 :=
  UInt8.ofNat c.toNat

theorem utf8EncodeChar_ascii {c : Char} (h : c.toNat < 0x80) :
    String.utf8EncodeChar c = [byteOf c] := by
  unfold String.utf8EncodeChar
  exact if_pos (Nat.le_of_lt_succ h)

theorem toNat_byteOf {c : Char} (h : c.toNat < 0x80) : (byteOf c).toNat = c.toNat := by
  rw [byteOf, UInt8.toNat_ofNat']
  omega

/-- Every other character starts with a byte that is none of ASCII. -/
theorem utf8EncodeChar_other {c : Char} (h : 0x80 ≤ c.toNat) :
    ∃ b more, String.utf8EncodeChar c = b :: more ∧ 0x80 ≤ b.toNat := by
  have hv : c.val.toNat = c.toNat := rfl
  have h₁ : ¬c.val.toNat ≤ 0x7F := by omega
  unfold String.utf8EncodeChar
  simp only [if_neg h₁]
  split
  · refine ⟨_, _, rfl, ?_⟩
    rw [UInt8.toNat_ofNat']
    omega
  · split
    · refine ⟨_, _, rfl, ?_⟩
      rw [UInt8.toNat_ofNat']
      omega
    · refine ⟨_, _, rfl, ?_⟩
      rw [UInt8.toNat_ofNat']
      omega

/-- The bytes of ASCII text are the codes of its characters. -/
theorem encodeChars_ascii {s : List Char} (h : ∀ c ∈ s, c.toNat < 0x80) :
    encodeChars s = s.map byteOf := by
  induction s with
  | nil => rfl
  | cons c s ih =>
    obtain ⟨hc, hs⟩ := List.forall_mem_cons.mp h
    rw [encodeChars_cons, utf8EncodeChar_ascii hc, ih hs]
    rfl

/-- **The bytes of a text are those of no other.** -/
theorem encodeChars_injective {s t : List Char} (h : encodeChars s = encodeChars t) : s = t := by
  have harray : (String.ofList s).toByteArray = (String.ofList t).toByteArray := by
    rw [String.toByteArray_ofList, String.toByteArray_ofList, List.utf8Encode, List.utf8Encode]
    exact congrArg List.toByteArray h
  exact String.ofList_injective (String.toByteArray_inj.mp harray)

/-- The bytes of a text stand for it. -/
theorem decode?_encodeChars (s : List Char) : decode? (encodeChars s) = some s := by
  have harray : (encodeChars s).toByteArray = s.utf8Encode := rfl
  rw [decode?, harray, List.utf8Decode?_utf8Encode, Option.map_some, List.toList_toArray]

/-- No byte of another character is one of ASCII. -/
theorem le_of_mem_utf8EncodeChar {c : Char} (h : 0x80 ≤ c.toNat) :
    ∀ b ∈ String.utf8EncodeChar c, 0x80 ≤ b.toNat := by
  have hbyte {n : Nat} (hn : 0x80 ≤ n ∧ n < 0x100) : 0x80 ≤ (UInt8.ofNat n).toNat := by
    rw [UInt8.toNat_ofNat']
    omega
  have hascii : ¬c.val.toNat ≤ 0x7F := Nat.not_le.mpr h
  unfold String.utf8EncodeChar
  simp only [if_neg hascii]
  split
  · simp only [List.forall_mem_cons]
    exact ⟨hbyte (by omega), hbyte (by omega), nofun⟩
  · split
    · simp only [List.forall_mem_cons]
      exact ⟨hbyte (by omega), hbyte (by omega), hbyte (by omega), nofun⟩
    · simp only [List.forall_mem_cons]
      exact ⟨hbyte (by omega), hbyte (by omega), hbyte (by omega), hbyte (by omega), nofun⟩

/-- No character but the zero character has a zero byte. -/
theorem ne_zero_of_mem_utf8EncodeChar {c : Char} (h : c ≠ '\x00') :
    ∀ b ∈ String.utf8EncodeChar c, b ≠ 0 := by
  intro b hb
  have hpos : 0 < b.toNat := by
    rcases Nat.lt_or_ge c.toNat 0x80 with hlt | hge
    · rw [utf8EncodeChar_ascii hlt, List.mem_singleton] at hb
      rw [hb, toNat_byteOf hlt]
      exact Nat.pos_of_ne_zero fun h0 => h (Char.toNat_inj.mp h0)
    · have := le_of_mem_utf8EncodeChar hge b hb
      omega
  rintro rfl
  exact Nat.lt_irrefl 0 hpos

/-- **The bytes in front of the first zero byte** are those of the text in front of the first zero
character. -/
theorem takeWhile_encodeChars (cs : List Char) :
    (encodeChars cs).takeWhile (· ≠ 0) = encodeChars (cs.takeWhile (· ≠ '\x00')) := by
  induction cs with
  | nil => rfl
  | cons c cs ih =>
    rw [encodeChars_cons]
    by_cases hc : c = '\x00'
    · subst hc
      rfl
    · have hbytes : ∀ b ∈ String.utf8EncodeChar c, decide (b ≠ 0) = true :=
        fun b hb => decide_eq_true (ne_zero_of_mem_utf8EncodeChar hc b hb)
      rw [List.takeWhile_append_of_pos hbytes, ih, List.takeWhile_cons_of_pos (by simpa using hc),
        encodeChars_cons]

/-- Text whose bytes can be read in ASCII text can be read in it. -/
theorem infix_of_encodeChars {s t : List Char} (ht : ∀ c ∈ t, c.toNat < 0x80)
    (h : encodeChars s <:+: encodeChars t) : s <:+: t := by
  obtain ⟨pre, post, h⟩ := h
  rw [encodeChars_ascii ht] at h
  obtain ⟨front, behind, rfl, hfront, -⟩ := List.map_eq_append_iff.mp h.symm
  obtain ⟨before, inside, rfl, -, hinside⟩ := List.map_eq_append_iff.mp hfront
  have hascii : ∀ c ∈ inside, c.toNat < 0x80 := fun c hc =>
    ht c (List.mem_append_left _ (List.mem_append_right _ hc))
  rw [← encodeChars_ascii hascii] at hinside
  rw [← encodeChars_injective hinside]
  exact ⟨before, behind, rfl⟩

end HiveDump.Utf8
