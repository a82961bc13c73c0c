import HiveDump.Proofs.Bytes
import HiveDump.Proofs.Image.Values
import HiveDump.Proofs.Report.Recovery
import Mathlib.Data.Int.ModEq
import Std.Data.String.ToInt

/-!
# Numbers can be found again in a report

A number of four or eight bytes is shown as a signed decimal. Whether it was read from an image, in
either order of bytes, or any number was given to a hive in memory, which keeps what fits: storing
the decimal as the kind of the value asks for gives the stored bytes again.

Results:
* `stored_signed`: what is stored of a number is what is stored of its decimal;
* `stored_of_decodePayload`: a number that was read is stored in the bytes that it was read from;
* **`number_recovered`**: the decimal of a value, and the bytes that it stands for.
-/

namespace HiveDump

/-! ## Decimals and stored bytes -/

/-- The width in bits of the numbers of a kind. -/
def Kind.numberBits? : Kind → Option Nat
  | .dword | .dwordBigEndian => some 32
  | .qword => some 64
  | _ => Option.none

namespace Report

variable {kind : Kind} {bits : Nat}

theorem lowBits_signed (bits : Nat) (n : Int) :
    Payload.lowBits bits (.number (signed bits n)) = Payload.lowBits bits (.number n) := by
  change (BitVec.ofInt bits (BitVec.ofInt bits n).toInt).toNat = _
  rw [BitVec.ofInt_toInt]
  rfl

/-- What is stored of a number is what is stored of its decimal. -/
theorem stored_signed (hbits : kind.numberBits? = some bits) (n : Int) :
    Payload.stored kind (.number (signed bits n)) = Payload.stored kind (.number n) := by
  cases kind <;> cases hbits <;> simp only [Payload.stored, lowBits_signed]

theorem le_signed (bits : Nat) (n : Int) : -2 ^ (bits - 1) ≤ signed bits n :=
  BitVec.le_toInt _

theorem signed_lt (bits : Nat) (n : Int) : signed bits n < 2 ^ (bits - 1) :=
  BitVec.toInt_lt

theorem signed_modEq (bits : Nat) (n : Int) : signed bits n ≡ n [ZMOD 2 ^ bits] := by
  unfold signed
  rw [BitVec.toInt_ofInt]
  exact_mod_cast Int.bmod_emod

end Report

namespace Payload

theorem lowBits_of_lt {width n : Nat} (hn : n < 256 ^ width) :
    lowBits (8 * width) (.number n) = n := by
  have hn : n < 2 ^ (8 * width) := by
    rw [Nat.pow_mul]
    exact hn
  change (BitVec.ofInt (8 * width) n).toNat = n
  rw [BitVec.ofInt_natCast, BitVec.toNat_ofNat, Nat.mod_eq_of_lt hn]

theorem ofLittleEndian_lowBits (b : Bytes) :
    Bytes.ofLittleEndian b.length (lowBits (8 * b.length) (.number (Bytes.littleEndian b))) =
      b := by
  rw [lowBits_of_lt (Bytes.littleEndian_lt b), Bytes.ofLittleEndian_littleEndian]

theorem ofBigEndian_lowBits (b : Bytes) :
    Bytes.ofBigEndian b.length (lowBits (8 * b.length) (.number (Bytes.bigEndian b))) = b := by
  rw [lowBits_of_lt (Bytes.bigEndian_lt b), Bytes.ofBigEndian_bigEndian]

end Payload

/-- A number that was read is stored in the bytes that it was read from. -/
theorem stored_of_decodePayload {kind : Kind} {bits : Nat} (hbits : kind.numberBits? = some bits)
    {handle : Int} {raw : Bytes} {data : Option Payload}
    (h : decodePayload handle kind raw = .ok data) :
    ∃ n : Int, data = some (.number n) ∧ Payload.stored kind (.number n) = raw := by
  have hlittle := Payload.ofLittleEndian_lowBits raw
  have hbig := Payload.ofBigEndian_lowBits raw
  cases kind with
  | dword =>
    obtain ⟨hsize, rfl⟩ := Image.decodedNumber_eq_ok h
    rw [hsize] at hlittle
    exact ⟨_, rfl, hlittle⟩
  | dwordBigEndian =>
    obtain ⟨hsize, rfl⟩ := Image.decodedNumber_eq_ok h
    rw [hsize] at hbig
    exact ⟨_, rfl, hbig⟩
  | qword =>
    obtain ⟨hsize, rfl⟩ := Image.decodedNumber_eq_ok h
    rw [hsize] at hlittle
    exact ⟨_, rfl, hlittle⟩
  | _ => cases hbits

/-! ## Values that hold numbers -/

/-- The values whose bytes are those of their content: what an image delivers, and what a hive in
memory makes of a number. -/
inductive Value.Supplied : Value → Prop
  | ofImage (h : HiveFile) (n : Node) {v : Value} (hv : v ∈ Listing.good (h.source.values n)) :
    Supplied v
  | ofMemory (h : MemoryHive) (node : Int) (new : MemoryHive.NewValue) {n : Int}
    (hdata : new.data = .number n) (hraw : new.raw = none) (hdecoded : new.decoded = true) :
    Supplied (h.addValue node new).2

/-- A value of a kind with numbers holds the number that its bytes store. -/
theorem Value.Supplied.stored {v : Value} (hv : v.Supplied) {bits : Nat}
    (hbits : v.kind.numberBits? = some bits) :
    v.decoded = true ∧
      ∃ n : Int, v.data = .number n ∧ Payload.stored v.kind (.number n) = v.raw := by
  cases hv with
  | ofImage h n hv =>
    obtain ⟨cell, hcell⟩ := h.value_of_mem_values hv
    obtain ⟨data, hdata, hshown, hdecoded⟩ := (Image.readAt_of_value hcell).data
    obtain ⟨n, rfl, hstored⟩ := stored_of_decodePayload hbits hdata
    exact ⟨hdecoded, n, hshown, hstored⟩
  | @ofMemory h node new n hdata hraw hdecoded =>
    change new.kind.numberBits? = some bits at hbits
    have htext : new.kind.isText = false := by
      cases hkind : new.kind <;> rw [hkind] at hbits <;> first | rfl | cases hbits
    refine ⟨hdecoded, n, ?_, ?_⟩
    · change new.payload = .number n
      rw [MemoryHive.NewValue.payload, hdecoded, htext, hdata]
      rfl
    · change Payload.stored new.kind (.number n) = new.stored
      rw [MemoryHive.NewValue.stored, hraw, hdata]
      rfl

/-! ## What is written of a number -/

namespace Report

open HiveDump.Action Markup Markup.Tree

variable {v : Value} {bits : Nat} {n : Int}

/-- The step of a value that holds a number. -/
theorem presentation_of_number (hbits : v.kind.numberBits? = some bits)
    (hdecoded : v.decoded = true) (hn : v.data = .number n) :
    ∃ shape, v.presentation = .ok (shape, .number n) ∧ announced shape v = none ∧
      valueType shape v = .ok (v.kind.label true) ∧
      payload shape v (.number n) = numberAttribute bits (.number n) ∧
      payloadShown shape v (.number n) = numberShown bits (.number n) := by
  obtain ⟨handle, key, storedKey, kind, length, data, raw, decoded⟩ := v
  obtain rfl : decoded = true := hdecoded
  obtain rfl : data = .number n := hn
  cases kind with
  | dword =>
    cases hbits
    exact ⟨.dword, rfl, rfl, rfl, rfl, rfl⟩
  | dwordBigEndian =>
    cases hbits
    exact ⟨.dword, rfl, rfl, rfl, rfl, rfl⟩
  | qword =>
    cases hbits
    exact ⟨.qword, rfl, rfl, rfl, rfl, rfl⟩
  | _ => cases hbits

/-- The decimal of a number is written in front of what is said of the value's place. -/
theorem value_eq_number (src : Source) (hbits : v.kind.numberBits? = some bits)
    (hdecoded : v.decoded = true) (hn : v.data = .number n) :
    value src v = (do
      valueStart v (v.kind.label true) none
      writeAttribute "value" (toString (signed bits n))
      valueEnd src v) := by
  obtain ⟨shape, hpresented, hannounced, htype, hpayload, -⟩ :=
    presentation_of_number hbits hdecoded hn
  unfold value present
  rw [hpresented]
  change (ask (valueType shape v) id >>= fun type => _) = _
  rw [htype, hannounced, hpayload]
  rfl

/-- What is shown of a value that holds a number. -/
theorem valueShown_of_number (hbits : v.kind.numberBits? = some bits) (hdecoded : v.decoded = true)
    (hn : v.data = .number n) :
    ∃ shown, valueShown v = .ok shown ∧ shown.texts = [] ∧
      attribute? "value" shown.attributes = some (toString (signed bits n)) := by
  obtain ⟨shape, hpresented, -, htype, -, hshown⟩ := presentation_of_number hbits hdecoded hn
  obtain ⟨-, hvalue, -⟩ := attribute?_valueMarks v (v.kind.label true) (announced shape v)
  refine ⟨_, valueShown_eq hpresented htype hshown, rfl, ?_⟩
  rw [attribute?_append, hvalue, Option.none_or, attribute?_cons, if_pos rfl]

/-- Whether an integer is the signed decimal of a value: it fits the width, is the content of the
value but for what does not fit, and is stored in the same bytes. -/
structure IsDecimal (v : Value) (bits : Nat) (k : Int) : Prop where
  lower : -2 ^ (bits - 1) ≤ k
  upper : k < 2 ^ (bits - 1)
  content : ∃ n : Int, v.data = .number n ∧ k ≡ n [ZMOD 2 ^ bits]
  stored : Payload.stored v.kind (.number k) = v.raw

/-- **The bytes of a number can be found again.** Of each value of four or eight bytes that an image
delivers, and of each one made of an integer in memory, the attribute `value` shows a decimal that
stands for the stored bytes. It is there wherever an element is open and no policy raises, even if
an answer about the place of the value ends the report behind it. -/
theorem number_recovered {v : Value} (hv : v.Supplied) {bits : Nat}
    (hbits : v.kind.numberBits? = some bits) :
    ∃ k : Int, IsDecimal v bits k ∧ (toString k).toInt? = some k ∧
      (∀ src, value src v = (do
        valueStart v (v.kind.label true) none
        writeAttribute "value" (toString k)
        valueEnd src v)) ∧
      ∀ (src : Source) (encoding : String) (g : Growing) (s : Session Writer),
        Stands encoding g s.output → g.outer ≠ [] → s.policy.NeverRaises →
          ∃ attributes runs, attribute? "value" attributes = some (toString k) ∧
            (Survives (valueRuns src v) → ∃ t, (value src v).perform s = (.ok (), t) ∧
              Stands encoding (g.add [.element "value" attributes runs]) t.output) ∧
            ∀ fault, valueRuns src v = .error fault → fault.isRecoverable = false →
              ∃ t, (value src v).perform s = (.error fault, t) ∧
                Stands encoding (g.opened "value" attributes) t.output := by
  obtain ⟨hdecoded, n, hn, hstored⟩ := hv.stored hbits
  refine ⟨signed bits n,
    ⟨le_signed bits n, signed_lt bits n, ⟨n, hn, signed_modEq bits n⟩,
      (stored_signed hbits n).trans hstored⟩,
    Int.toInt?_repr _, fun src => value_eq_number src hbits hdecoded hn, ?_⟩
  intro src encoding g s hstands hinner hp
  obtain ⟨shown, hshown, htexts, hvalue⟩ := valueShown_of_number hbits hdecoded hn
  refine ⟨shown.attributes, (valueRunsLeft src v).2, hvalue, fun hruns => ?_,
    fun fault hfault hr => ?_⟩
  · obtain ⟨w, hdoes, hw⟩ := brings_value hinner hshown hruns s.output hstands
    obtain ⟨ds, hperform⟩ := hdoes.perform hp
    rw [htexts, List.nil_append] at hw
    exact ⟨_, hperform, hw⟩
  · obtain ⟨w, hdoes, hw⟩ := fails_value hshown hfault hr s.output hstands
    obtain ⟨ds, hperform⟩ := hdoes.perform hp
    rw [htexts, Growing.add_nil] at hw
    exact ⟨_, hperform, hw⟩

/-- A hive that is given a number too large for its kind. -/
def oversized : MemoryHive × Value :=
  (MemoryHive.create { name := some "root" } none true).addValue MemoryHive.firstOffset
    { key := some "n", kind := .qword, data := .number (3 * 2 ^ 63 + 1) }

theorem number_recovered_oversized :
    (∃ (h : HiveFile) (n : Node) (v : Value), v ∈ Listing.good (h.source.values n) ∧
      v.kind = .dwordBigEndian ∧ v.raw = [0x80, 0, 0, 1] ∧
      ∃ k : Int, IsDecimal v 32 k ∧ (toString k).toInt? = some k ∧
        ∀ src, value src v = (do
          valueStart v "int32" none
          writeAttribute "value" (toString k)
          valueEnd src v)) ∧
    oversized.2.raw = [1, 0, 0, 0, 0, 0, 0, 0x80] ∧ IsDecimal oversized.2 64 (-2 ^ 63 + 1) ∧
      ∃ (w : Writer) (encoding : String) (g : Growing) (t : Session Writer)
        (attributes : List Attribute) (runs : List Tree), Stands encoding g w ∧
          (value oversized.1.source oversized.2).perform ⟨w, .standard, {}, #[]⟩ = (.ok (), t) ∧
          attribute? "value" attributes = some (toString (-2 ^ 63 + 1 : Int)) ∧
          Stands encoding (g.add [.element "value" attributes runs]) t.output := by
  refine ⟨?_, by decide, ?_⟩
  · obtain ⟨h, n, v, -, hv, hkind, hraw⟩ := HiveFile.exists_value_singleTree
      (d := ⟨.oneByte "n", 5, [0x80, 0, 0, 1]⟩)
      ⟨by decide, by decide, by decide, by decide, by decide, by decide⟩ (by decide +kernel)
    obtain ⟨k, hk, htext, hwritten, -⟩ :=
      number_recovered (.ofImage h n hv) (show v.kind.numberBits? = some 32 by rw [hkind]; rfl)
    rw [hkind] at hwritten
    exact ⟨h, n, v, hv, hkind, hraw, k, hk, htext, hwritten⟩
  · obtain ⟨k, hk, -, -, hdocument⟩ :=
      number_recovered (v := oversized.2) (.ofMemory _ _ _ rfl rfl rfl)
        (show oversized.2.kind.numberBits? = some 64 from rfl)
    -- Content and width leave one decimal only.
    obtain rfl : k = -2 ^ 63 + 1 := by
      obtain ⟨hlower, hupper, ⟨n, hn, hmod⟩, -⟩ := hk
      cases hn
      unfold Int.ModEq at hmod
      omega
    have hruns : Survives (valueRuns oversized.1.source oversized.2) := by rintro fault ⟨⟩
    obtain ⟨w, -, encoding, g, hroot, hstands⟩ := isOpen_start Writer.usable_utf8
    obtain ⟨attributes, runs, hvalue, hwritten, -⟩ :=
      hdocument oversized.1.source encoding g ⟨w, .standard, {}, #[]⟩ hstands
        (outer_ne_nil_of_rooted hroot) Policy.neverRaises_standard
    obtain ⟨t, hperform, ht⟩ := hwritten hruns
    exact ⟨hk, w, encoding, g, t, attributes, runs, hstands, hperform, hvalue, ht⟩

end Report

end HiveDump
