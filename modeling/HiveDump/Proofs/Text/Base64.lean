import HiveDump.Text.Base64
import Mathlib.Algebra.Group.Nat.Defs

/-!
# Base64 is read back

What is written in base64 can be read, and gives the bytes it was written for. It is determined by
the binary digits of the bytes: these are cut into groups of six, whatever bytes they belong to.

Results:
* **`decode?_encode`**: it follows the groups: three bytes are 24 bits, cut into four numbers of six
  bits and put together again;
* **`spells_iff`**: the text of bytes is the one that spells their binary digits.
-/

namespace HiveDump.Base64

/-- Every six-bit number has its own character, none of which is the padding. -/
theorem value?_digit {n : Nat} (h : n < 64) : value? (digit n) = some n := by
  revert n
  decide

theorem digit_ne_padding {n : Nat} (h : n < 64) : digit n ≠ '=' := by
  revert n
  decide

variable {a b c d : Char} {w x y z : Nat}

/-- A group without padding is read, with what is behind it. -/
theorem decode?_group (ha : value? a = some w) (hb : value? b = some x) (hc : value? c = some y)
    (hd : value? d = some z) (hpadding : d ≠ '=') {rest : List Char} {tail : Bytes}
    (hrest : decode? rest = some tail) :
    decode? (a :: b :: c :: d :: rest) = some (groupBytes w x y z ++ tail) := by
  simp [decode?, hpadding, ha, hb, hc, hd, hrest]

/-- A group with one character of padding. -/
theorem decode?_padded (ha : value? a = some w) (hb : value? b = some x) (hc : value? c = some y)
    (hpadding : c ≠ '=') (hbits : y % 4 = 0) :
    decode? [a, b, c, '='] = some ((groupBytes w x y 0).take 2) := by
  simp [decode?, ha, hb, hc, hbits]

/-- The numbers of a group give its bytes. -/
theorem groupBytes_eq (a b c : UInt8) :
    groupBytes (a.toNat / 4) (a.toNat % 4 * 16 + b.toNat / 16) (b.toNat % 16 * 4 + c.toNat / 64)
      (c.toNat % 64) = [a, b, c] := by
  have hb := b.toNat_lt
  have hc := c.toNat_lt
  have hfirst : a.toNat / 4 * 4 + (a.toNat % 4 * 16 + b.toNat / 16) / 16 = a.toNat := by omega
  have hsecond : (a.toNat % 4 * 16 + b.toNat / 16) % 16 * 16 +
      (b.toNat % 16 * 4 + c.toNat / 64) / 4 = b.toNat := by omega
  have hthird : (b.toNat % 16 * 4 + c.toNat / 64) % 4 * 64 + c.toNat % 64 = c.toNat := by omega
  rw [groupBytes, hfirst, hsecond, hthird]
  simp

/-- **What is written in base64 is read back.** -/
theorem decode?_encode (b : Bytes) : decode? (encode b) = some b := by
  induction b using encode.induct with
  | case1 => rfl
  | case2 a =>
    have ha := a.toNat_lt
    have hgroup := groupBytes_eq a 0 0
    have hfirst := value?_digit (n := a.toNat / 4) (by omega)
    have hsecond := value?_digit (n := a.toNat % 4 * 16) (by omega)
    simp only [UInt8.toNat_zero, Nat.zero_div, Nat.add_zero, Nat.zero_mod, Nat.zero_mul] at hgroup
    simp [encode, decode?, hfirst, hsecond, hgroup]
  | case3 a b =>
    have ha := a.toNat_lt
    have hb := b.toNat_lt
    have hgroup := groupBytes_eq a b 0
    simp only [UInt8.toNat_zero, Nat.zero_div, Nat.add_zero, Nat.zero_mod] at hgroup
    rw [encode, decode?_padded (value?_digit (by omega)) (value?_digit (by omega))
      (value?_digit (by omega)) (digit_ne_padding (by omega)) (by omega), hgroup]
    rfl
  | case4 a b c rest ih =>
    have ha := a.toNat_lt
    have hb := b.toNat_lt
    have hc := c.toNat_lt
    rw [encode, decode?_group (value?_digit (by omega)) (value?_digit (by omega))
      (value?_digit (by omega)) (value?_digit (by omega)) (digit_ne_padding (by omega)) ih,
      groupBytes_eq]
    rfl

/-- The text of a byte string in base64 stands for it. -/
theorem decode?_text (b : Bytes) : decode? (text b).toList = some b := by
  rw [text, String.toList_ofList, decode?_encode]

/-! ## Bits in groups of six -/

/-- The binary digits of a number in a width, the most significant first. -/
def bits (width n : Nat) : List Bool :=
  (List.range width).reverse.map n.testBit

/-- The binary digits of a byte string. -/
def bitsOf (b : Bytes) : List Bool :=
  (b.map UInt8.toNat).flatMap (bits 8)

/-- Whether a text spells bytes: each character stands for six of their binary digits, the last six
are filled up with zeros, and `=` makes up a whole number of four characters. -/
def Spells (text : List Char) (b : Bytes) : Prop :=
  ∃ groups : List Nat, ∃ padding < 3, (∀ n ∈ groups, n < 2 ^ 6) ∧
    groups.flatMap (bits 6) = bitsOf b ++ List.replicate (2 * padding) false ∧
    text = groups.map digit ++ List.replicate padding '=' ∧ text.length % 4 = 0

theorem length_bits (width n : Nat) : (bits width n).length = width := by
  simp [bits]

theorem length_flatMap_bits (width : Nat) (ns : List Nat) :
    (ns.flatMap (bits width)).length = width * ns.length := by
  simp [List.length_flatMap, length_bits, List.map_const', Nat.mul_comm]

/-- The digits of a number are those of its high part, then those of its low part. -/
theorem bits_join (w v high : Nat) {low : Nat} (h : low < 2 ^ v) :
    bits (w + v) (high * 2 ^ v + low) = bits w high ++ bits v low := by
  have hhigh : ∀ i, (2 ^ v * high + low).testBit (v + i) = high.testBit i := by
    intro i
    rw [Nat.testBit_two_pow_mul_add high h, if_neg (by omega), Nat.add_sub_cancel_left]
  have hlow : ∀ i ∈ (List.range v).reverse, (2 ^ v * high + low).testBit i = low.testBit i := by
    intro i hi
    rw [List.mem_reverse, List.mem_range] at hi
    rw [Nat.testBit_two_pow_mul_add high h, if_pos hi]
  rw [Nat.mul_comm, bits, Nat.add_comm w v, List.range_add, List.reverse_append, List.map_append,
    List.map_congr_left hlow, ← List.map_reverse, List.map_map, bits, bits]
  congr 1
  exact List.map_congr_left fun i _ => hhigh i

theorem bits_inj {width m n : Nat} (hm : m < 2 ^ width) (hn : n < 2 ^ width)
    (h : bits width m = bits width n) : m = n := by
  refine Nat.eq_of_testBit_eq fun i => ?_
  by_cases hi : i < width
  · exact List.map_inj_left.mp h i (by simpa using hi)
  · have hle : 2 ^ width ≤ 2 ^ i := Nat.pow_le_pow_right (by decide) (Nat.not_lt.mp hi)
    rw [Nat.testBit_lt_two_pow (by omega), Nat.testBit_lt_two_pow (by omega)]

theorem bits_split (w v n : Nat) : bits (w + v) n = bits w (n / 2 ^ v) ++ bits v (n % 2 ^ v) := by
  have hjoin := bits_join w v (n / 2 ^ v) (Nat.mod_lt n (Nat.two_pow_pos v))
  rwa [Nat.div_add_mod'] at hjoin

/-- Three bytes are four groups. -/
theorem bits_three (a b c : UInt8) :
    [a.toNat / 4, a.toNat % 4 * 16 + b.toNat / 16, b.toNat % 16 * 4 + c.toNat / 64,
      c.toNat % 64].flatMap (bits 6) = bitsOf [a, b, c] := by
  have hb := b.toNat_lt
  have hc := c.toNat_lt
  have hsecond : bits 6 (a.toNat % 4 * 16 + b.toNat / 16) =
      bits 2 (a.toNat % 4) ++ bits 4 (b.toNat / 16) := bits_join 2 4 _ (by omega)
  have hthird : bits 6 (b.toNat % 16 * 4 + c.toNat / 64) =
      bits 4 (b.toNat % 16) ++ bits 2 (c.toNat / 64) := bits_join 4 2 _ (by omega)
  have ha : bits 8 a.toNat = bits 6 (a.toNat / 4) ++ bits 2 (a.toNat % 4) := bits_split 6 2 _
  have hb : bits 8 b.toNat = bits 4 (b.toNat / 16) ++ bits 4 (b.toNat % 16) := bits_split 4 4 _
  have hc : bits 8 c.toNat = bits 2 (c.toNat / 64) ++ bits 6 (c.toNat % 64) := bits_split 2 6 _
  simp only [bitsOf, List.map_cons, List.map_nil, List.flatMap_cons, List.flatMap_nil, hsecond,
    hthird, ha, hb, hc, List.append_assoc]

/-- A group with zeros behind the end of the last byte. -/
theorem bits_filled (w v high : Nat) :
    bits (w + v) (high * 2 ^ v) = bits w high ++ List.replicate v false := by
  have hzero : bits v 0 = List.replicate v false := by
    rw [List.eq_replicate_iff]
    exact ⟨length_bits v 0, by simp [bits]⟩
  rw [← hzero]
  exact bits_join w v high (Nat.two_pow_pos v)

/-- One byte is two groups, the second one with four zeros. -/
theorem bits_one (a : UInt8) :
    [a.toNat / 4, a.toNat % 4 * 16].flatMap (bits 6) = bitsOf [a] ++ List.replicate 4 false := by
  have hsecond : bits 6 (a.toNat % 4 * 16) = bits 2 (a.toNat % 4) ++ List.replicate 4 false :=
    bits_filled 2 4 _
  have ha : bits 8 a.toNat = bits 6 (a.toNat / 4) ++ bits 2 (a.toNat % 4) := bits_split 6 2 _
  simp only [bitsOf, List.map_cons, List.map_nil, List.flatMap_cons, List.flatMap_nil, hsecond, ha,
    List.append_assoc, List.append_nil]

/-- Two bytes are three groups, the third one with two zeros. -/
theorem bits_two (a b : UInt8) :
    [a.toNat / 4, a.toNat % 4 * 16 + b.toNat / 16, b.toNat % 16 * 4].flatMap (bits 6) =
      bitsOf [a, b] ++ List.replicate 2 false := by
  have hbound := b.toNat_lt
  have hsecond : bits 6 (a.toNat % 4 * 16 + b.toNat / 16) =
      bits 2 (a.toNat % 4) ++ bits 4 (b.toNat / 16) := bits_join 2 4 _ (by omega)
  have hthird : bits 6 (b.toNat % 16 * 4) = bits 4 (b.toNat % 16) ++ List.replicate 2 false :=
    bits_filled 4 2 _
  have ha : bits 8 a.toNat = bits 6 (a.toNat / 4) ++ bits 2 (a.toNat % 4) := bits_split 6 2 _
  have hb : bits 8 b.toNat = bits 4 (b.toNat / 16) ++ bits 4 (b.toNat % 16) := bits_split 4 4 _
  simp only [bitsOf, List.map_cons, List.map_nil, List.flatMap_cons, List.flatMap_nil, hsecond,
    hthird, ha, hb, List.append_assoc, List.append_nil]

/-- Three bytes in front of others. -/
theorem Spells.cons {text : List Char} {rest : Bytes} (h : Spells text rest) (a b c : UInt8) :
    Spells (digit (a.toNat / 4) :: digit (a.toNat % 4 * 16 + b.toNat / 16) ::
      digit (b.toNat % 16 * 4 + c.toNat / 64) :: digit (c.toNat % 64) :: text)
      (a :: b :: c :: rest) := by
  have ha := a.toNat_lt
  have hb := b.toNat_lt
  have hc := c.toNat_lt
  obtain ⟨groups, padding, hpadding, hgroups, hbits, rfl, hlength⟩ := h
  refine ⟨[a.toNat / 4, a.toNat % 4 * 16 + b.toNat / 16, b.toNat % 16 * 4 + c.toNat / 64,
      c.toNat % 64] ++ groups, padding, hpadding, ?_, ?_, rfl, ?_⟩
  · rw [List.forall_mem_append]
    refine ⟨?_, hgroups⟩
    simp only [List.forall_mem_cons]
    exact ⟨by omega, by omega, by omega, by omega, nofun⟩
  · rw [List.flatMap_append, bits_three, hbits, ← List.append_assoc]
    rfl
  · simp only [List.length_cons]
    omega

/-- What is written spells the bytes it was written for. -/
theorem spells_encode (b : Bytes) : Spells (encode b) b := by
  induction b using encode.induct with
  | case1 => exact ⟨[], 0, by decide, nofun, rfl, rfl, rfl⟩
  | case2 a =>
    have ha := a.toNat_lt
    refine ⟨_, 2, by decide, ?_, bits_one a, rfl, by simp [encode]⟩
    simp only [List.forall_mem_cons]
    exact ⟨by omega, by omega, nofun⟩
  | case3 a b =>
    have ha := a.toNat_lt
    have hb := b.toNat_lt
    refine ⟨_, 1, by decide, ?_, bits_two a b, rfl, by simp [encode]⟩
    simp only [List.forall_mem_cons]
    exact ⟨by omega, by omega, by omega, nofun⟩
  | case4 a b c rest ih => exact ih.cons a b c

/-- Numbers in a row are known from their digits. -/
theorem flatMap_bits_inj {width : Nat} (hwidth : 0 < width) {ms ns : List Nat}
    (hms : ∀ n ∈ ms, n < 2 ^ width) (hns : ∀ n ∈ ns, n < 2 ^ width)
    (h : ms.flatMap (bits width) = ns.flatMap (bits width)) : ms = ns := by
  induction ms generalizing ns with
  | nil =>
    have hlength := congrArg List.length h
    rw [length_flatMap_bits, length_flatMap_bits] at hlength
    exact (List.eq_nil_of_length_eq_zero (Nat.eq_of_mul_eq_mul_left hwidth hlength).symm).symm
  | cons m ms ih =>
    cases ns with
    | nil =>
      have hlength := congrArg List.length h
      rw [List.flatMap_cons, List.length_append, length_bits] at hlength
      exact absurd hlength (Nat.ne_of_gt (Nat.add_pos_left hwidth _))
    | cons n ns =>
      obtain ⟨hm, hms⟩ := List.forall_mem_cons.mp hms
      obtain ⟨hn, hns⟩ := List.forall_mem_cons.mp hns
      obtain ⟨hfirst, hrest⟩ := List.append_inj h (by rw [length_bits, length_bits])
      rw [bits_inj hm hn hfirst, ih hms hns hrest]

/-- **The text of bytes is the only one that spells them.** -/
theorem spells_iff {text : List Char} {b : Bytes} : Spells text b ↔ text = encode b := by
  refine ⟨fun h => ?_, fun h => h ▸ spells_encode b⟩
  obtain ⟨groups, padding, hpadding, hgroups, hbits, rfl, -⟩ := h
  obtain ⟨groups', padding', hpadding', hgroups', hbits', htext, -⟩ := spells_encode b
  -- The number of zeros is known from the number of bytes, as there are fewer than six of them.
  have hlength := congrArg List.length hbits
  have hlength' := congrArg List.length hbits'
  simp only [length_flatMap_bits, bitsOf, List.length_map, List.length_append,
    List.length_replicate] at hlength hlength'
  obtain rfl : padding = padding' := by omega
  rw [htext, flatMap_bits_inj (by decide) hgroups hgroups' (hbits.trans hbits'.symm)]

example : (List.range 64).map digit =
    "ABCDEFGHIJKLMNOPQRSTUVWXYZabcdefghijklmnopqrstuvwxyz0123456789+/".toList := by decide

end HiveDump.Base64
