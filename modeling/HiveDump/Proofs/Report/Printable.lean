import HiveDump.Markup.Document
import HiveDump.Proofs.Text.Utf8
import HiveDump.Report.Element

/-!
# What a report writes is printable

The values of attributes and the texts of a report are printable ASCII, whatever the hive holds:
numbers, time stamps, base64, and names and texts only if they are printable.

Results:
* `printable_decimal`, `printable_base64`, `printable_time`: texts that are made for the report;
* **`printable_plainText`**: text that is shown as it is.
-/

namespace HiveDump.Report

open Markup

/-! ## Printable text -/

/-- Whether a character is printable ASCII. -/
def IsPrintableChar (c : Char) : Prop :=
  0x20 ≤ c.toNat ∧ c.toNat ≤ 0x7E

/-- Whether a text is printable ASCII. -/
def Printable (s : String) : Prop :=
  ∀ c ∈ s.toList, IsPrintableChar c

instance (c : Char) : Decidable (IsPrintableChar c) := by
  unfold IsPrintableChar
  infer_instance

instance (s : String) : Decidable (Printable s) :=
  List.decidableBAll IsPrintableChar s.toList

theorem legal_of_printable {s : String} (h : Printable s) : legal s = true := by
  unfold legal
  rw [List.all_eq_true]
  intro c hc
  obtain ⟨hlow, hhigh⟩ := h c hc
  unfold isLegal
  rw [if_neg (by omega)]
  simp only [Bool.and_eq_true, decide_eq_true_eq]
  omega

theorem printable_ofList {cs : List Char} (h : ∀ c ∈ cs, IsPrintableChar c) :
    Printable (String.ofList cs) := by
  unfold Printable
  rwa [String.toList_ofList]

/-! ## Numbers -/

theorem isPrintableChar_of_isDigit {c : Char} (h : c.isDigit = true) : IsPrintableChar c := by
  simp only [Char.isDigit, Bool.and_eq_true, decide_eq_true_eq, UInt32.le_iff_toNat_le] at h
  have hlow : 48 ≤ c.toNat := h.1
  have hhigh : c.toNat ≤ 57 := h.2
  unfold IsPrintableChar
  omega

theorem printable_toDigits (n : Nat) : ∀ c ∈ Nat.toDigits 10 n, IsPrintableChar c :=
  fun _ hc => isPrintableChar_of_isDigit
    (Nat.isDigit_of_mem_toDigits (by decide) (by decide) hc)

/-- A decimal is printable. -/
theorem printable_decimal (n : Int) : Printable (toString n) := by
  intro c hc
  change c ∈ (Int.repr n).toList at hc
  cases n with
  | ofNat m =>
    rw [Int.repr, Nat.toList_repr] at hc
    exact printable_toDigits m c hc
  | negSucc m =>
    rw [Int.repr, String.toList_append, List.mem_append, Nat.toList_repr] at hc
    rcases hc with hc | hc
    · rw [List.mem_singleton.mp hc]
      decide
    · exact printable_toDigits _ c hc

/-! ## Base64 -/

theorem toNat_ofNat_ascii {n : Nat} (h : n < 0x80) : (Char.ofNat n).toNat = n := by
  have hvalid : n.isValidChar := .inl (by omega)
  rw [Char.ofNat, dif_pos hvalid]
  rfl

theorem printable_digit (n : Nat) : IsPrintableChar (Base64.digit n) := by
  unfold Base64.digit IsPrintableChar
  split
  next h =>
    rw [toNat_ofNat_ascii (by omega)]
    omega
  next h =>
    split
    next h' =>
      rw [toNat_ofNat_ascii (by omega)]
      omega
    next h' =>
      split
      next h'' =>
        rw [toNat_ofNat_ascii (by omega)]
        omega
      next h'' => split <;> decide

theorem printable_encode (b : Bytes) : ∀ c ∈ Base64.encode b, IsPrintableChar c := by
  fun_induction Base64.encode b with
  | case1 => simp
  | case2 a =>
    simp only [List.forall_mem_cons]
    exact ⟨printable_digit _, printable_digit _, by decide, by decide, by simp⟩
  | case3 a b =>
    simp only [List.forall_mem_cons]
    exact ⟨printable_digit _, printable_digit _, printable_digit _, by decide, by simp⟩
  | case4 a b c rest ih =>
    simp only [List.forall_mem_cons]
    exact ⟨printable_digit _, printable_digit _, printable_digit _, printable_digit _, ih⟩

/-- Base64 is printable. -/
theorem printable_base64 (b : Bytes) : Printable (Base64.text b) :=
  printable_ofList (printable_encode b)

/-! ## Time stamps -/

theorem printable_padded (width n : Nat) : ∀ c ∈ FileTime.padded width n, IsPrintableChar c := by
  intro c hc
  rcases List.mem_append.mp hc with hc | hc
  · rw [(List.mem_replicate.mp hc).2]
    decide
  · exact printable_toDigits n c hc

theorem printable_render (second : Nat) : ∀ c ∈ FileTime.render second, IsPrintableChar c := by
  unfold FileTime.render
  simp only [List.forall_mem_append, List.forall_mem_cons]
  and_intros
  all_goals first | exact printable_padded _ _ | simp

/-- A time stamp is printable, and never empty. -/
theorem printable_time {ticks : Option Int} {text : String}
    (h : FileTime.optionalText? ticks = some text) : Printable text ∧ text.isEmpty = false := by
  obtain ⟨t, -, ht⟩ := Option.bind_eq_some_iff.mp h
  unfold FileTime.text? at ht
  simp only at ht
  split at ht
  · cases ht
  · cases ht
    refine ⟨printable_ofList (printable_render _), ?_⟩
    rw [String.isEmpty_eq_false_iff]
    intro hempty
    have hnil := congrArg String.toList hempty
    rw [String.toList_ofList] at hnil
    simp [FileTime.render] at hnil

/-! ## Text that is shown as it is -/

theorem toNat_of_isPrintable {b : UInt8} (h : isPrintable b.toNat = true) :
    0x20 ≤ b.toNat ∧ b.toNat ≤ 0x7E := by
  simp only [isPrintable, Bool.and_eq_true, decide_eq_true_eq] at h
  omega

theorem ne_zero_of_isPrintable {b : UInt8} (h : 0x20 ≤ b.toNat) : b ≠ 0 := by
  rintro rfl
  simp at h

/-- Text whose bytes are printable up to the first zero byte is printable up to there. -/
theorem printable_takeWhile : ∀ {cs : List Char},
    (∀ b ∈ (Utf8.encodeChars cs).takeWhile (· ≠ 0), isPrintable b.toNat = true) →
      ∀ c ∈ cs.takeWhile (· ≠ '\x00'), IsPrintableChar c
  | [], _, c, hc => by cases hc
  | d :: cs, h, c, hc => by
    rw [Utf8.encodeChars_cons] at h
    by_cases hd : d = '\x00'
    · rw [hd, List.takeWhile_cons_of_neg (by simp)] at hc
      cases hc
    · rw [List.takeWhile_cons_of_pos (by simpa using hd)] at hc
      have hnat : d.toNat ≠ 0 := fun h0 => hd (Char.toNat_inj.mp h0)
      rcases Nat.lt_or_ge d.toNat 0x80 with hlt | hge
      · have hbyte := Utf8.toNat_byteOf hlt
        have hzero : Utf8.byteOf d ≠ 0 := by
          intro h0
          rw [h0] at hbyte
          exact hnat hbyte.symm
        rw [Utf8.utf8EncodeChar_ascii hlt, List.singleton_append,
          List.takeWhile_cons_of_pos (by simpa using hzero)] at h
        obtain ⟨hfirst, hrest⟩ := List.forall_mem_cons.mp h
        have hrange := toNat_of_isPrintable hfirst
        rw [hbyte] at hrange
        rcases List.mem_cons.mp hc with rfl | hc
        · exact hrange
        · exact printable_takeWhile hrest c hc
      · obtain ⟨b, more, hbytes, hb⟩ := Utf8.utf8EncodeChar_other hge
        have hzero : b ≠ 0 := ne_zero_of_isPrintable (by omega)
        rw [hbytes, List.cons_append, List.takeWhile_cons_of_pos (by simpa using hzero)] at h
        have hrange := toNat_of_isPrintable (h b List.mem_cons_self)
        omega

theorem encodeChars_ofBytes {b : Bytes} (h : ∀ x ∈ b, x.toNat < 0x80) :
    Utf8.encodeChars (b.map fun x => Char.ofNat x.toNat) = b := by
  induction b with
  | nil => rfl
  | cons x xs ih =>
    obtain ⟨hx, hxs⟩ := List.forall_mem_cons.mp h
    have hchar := toNat_ofNat_ascii hx
    rw [List.map_cons, Utf8.encodeChars_cons, Utf8.utf8EncodeChar_ascii (by omega), ih hxs,
      Utf8.byteOf, hchar, UInt8.ofNat_toNat]
    rfl

/-- **Data that is shown as it is is printable.** -/
theorem printable_plainText {d : AttributeData} (h : (recommend d).1 = .plain)
    {s t : Session Writer} {text : String} (hp : (plainText d).perform s = (.ok text, t)) :
    Printable text ∧ t = s := by
  have hnone : firstUnprintable? 0 d.terminated = none := by
    unfold recommend at h
    split at h
    next hnone => exact hnone
    next => cases h
  have hall := (firstUnprintable?_eq_none_iff 0 d.terminated).mp hnone
  cases d with
  | text full =>
    cases hp
    exact ⟨printable_ofList (printable_takeWhile hall), rfl⟩
  | bytes b =>
    simp only [plainText] at hp
    split at hp
    next hascii =>
      cases hp
      rw [List.all_eq_true] at hascii
      have hlt : ∀ x ∈ b, x.toNat < 0x80 := fun x hx =>
        UInt8.lt_iff_toNat_lt.mp (of_decide_eq_true (hascii x hx))
      refine ⟨printable_ofList (printable_takeWhile ?_), rfl⟩
      rw [String.toList_ofList, encodeChars_ofBytes hlt]
      exact hall
    next => cases hp

end HiveDump.Report
