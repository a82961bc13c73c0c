import HiveDump.Conversion
import HiveDump.Image.Hive
import HiveDump.Proofs.Bytes
import HiveDump.Proofs.Image.FreeCells
import HiveDump.Proofs.Image.RoundTrip
import HiveDump.Proofs.Report.ShownValues
import HiveDump.Proofs.Text.Terminated

/-!
# Values of images can be shown

Whatever an image holds, a value that is read from it keeps a contract that a report relies on: its
length is that of its stored bytes, only text may be undecoded, and decoded content has the form
that the kind of the value promises. So the value has a shape, and its element can be written. A
question about it that fails is one whose failure is survived.

Results:
* `readAt_of_value`: what is known of a value that was read;
* **`value_eq_ok`**: it keeps the contract (`Value.Sound`);
* **`exists_valueShown`**: what keeps it can be shown;
* `survives_valueRuns`: the questions about a value;
* **`value_succeeds`**: no value of an image ends a report;
* `exists_value_of_stands`: every value of a key that was laid out is delivered.
-/

namespace HiveDump

/-! ## The contract -/

/-- Whether decoded content has the form that a kind promises. -/
def Kind.Promises (kind : Kind) (p : Payload) : Prop :=
  match kind with
  | .string | .expandString | .link => ∃ s, p = .text s ∧ '\x00' ∉ s.toList
  | .strings => ∃ ss : List String, p = .texts (ss.map some) ∧ ∀ s ∈ ss, s ≠ "" ∧ '\x00' ∉ s.toList
  | .dword | .dwordBigEndian => ∃ n : Nat, p = .number n ∧ n < 2 ^ 32
  | .qword => ∃ n : Nat, p = .number n ∧ n < 2 ^ 64
  | _ => ∃ b, p = .bytes b

/-- What a report relies on of a value. -/
structure Value.Sound (v : Value) : Prop where
  length : v.length = v.raw.length
  undecoded : v.decoded = false → v.kind.isText = true ∧ v.data = .absent
  decoded : v.decoded = true → v.kind.Promises v.data

/-! ## Reading a value -/

namespace Image

variable {im : Image} {cell : Int} {v : Value}

/-- A number is read from bytes of its size. -/
theorem decodedNumber_eq_ok {handle : Int} {raw : Bytes} {width : NumberWidth} {size : Nat}
    {read : Bytes → Nat} {data : Option Payload}
    (h : (if raw.length = size then .ok (some (.number (read raw)))
      else .error (.wrongLength width handle raw.length) : Except Fault (Option Payload)) =
        .ok data) : raw.length = size ∧ data = some (.number (read raw)) := by
  split at h
  next hsize =>
    cases h
    exact ⟨hsize, rfl⟩
  next => cases h

theorem promises_of_decodePayload {handle : Int} {kind : Kind} {raw : Bytes} {p : Payload}
    (h : decodePayload handle kind raw = .ok (some p)) : kind.Promises p := by
  have hnumber {width : NumberWidth} {size : Nat} {read : Bytes → Nat}
      (hread : read raw < 256 ^ raw.length)
      (h : (if raw.length = size then .ok (some (.number (read raw)))
        else .error (.wrongLength width handle raw.length) : Except Fault (Option Payload)) =
          .ok (some p)) : ∃ n : Nat, p = .number n ∧ n < 256 ^ size := by
    obtain ⟨rfl, hp⟩ := decodedNumber_eq_ok h
    exact ⟨read raw, Option.some_inj.mp hp, hread⟩
  have htext (h : (Utf16.decodeString? raw).map Payload.text = some p) :
      ∃ s, p = .text s ∧ '\x00' ∉ s.toList := by
    obtain ⟨s, hs, rfl⟩ := Option.map_eq_some_iff.mp h
    exact ⟨s, rfl, Utf16.nul_not_mem_of_decodeString? hs⟩
  cases kind with
  | string => exact htext (Except.ok.inj h)
  | expandString => exact htext (Except.ok.inj h)
  | link => exact htext (Except.ok.inj h)
  | strings =>
    obtain ⟨ss, hss, rfl⟩ := Option.map_eq_some_iff.mp (Except.ok.inj h)
    exact ⟨ss, rfl, Utf16.nul_not_mem_of_decodeStrings? hss⟩
  | dword => exact hnumber (Bytes.littleEndian_lt raw) h
  | dwordBigEndian => exact hnumber (Bytes.bigEndian_lt raw) h
  | qword => exact hnumber (Bytes.littleEndian_lt raw) h
  | _ =>
    cases h
    exact ⟨raw, rfl⟩

/-- Only text may fail to decode without making its entry malformed. -/
theorem isText_of_decodePayload {handle : Int} {kind : Kind} {raw : Bytes}
    (h : decodePayload handle kind raw = .ok none) : kind.isText = true := by
  cases kind with
  | string | expandString | link | strings => rfl
  | dword | dwordBigEndian | qword =>
    unfold decodePayload at h
    dsimp only at h
    split at h <;> cases h
  | _ => cases h

/-- What is known of a value that was read from a cell. -/
structure ReadAt (im : Image) (cell : Int) (v : Value) : Prop where
  sized : ∃ c, im.cell cell = .ok c
  handle : v.handle = cell
  head : im.valueHead (cell + cellHeaderSize) = .ok (v.storedKey, v.key, v.kind)
  payload : im.payload (cell + cellHeaderSize) = .ok v.raw
  length : v.length = v.raw.length
  data : ∃ data, decodePayload v.handle v.kind v.raw = .ok data ∧ v.data = data.getD .absent ∧
    v.decoded = data.isSome

/-- A value lies in the cell it was read from. -/
theorem readAt_of_value (h : im.value cell = .ok v) : im.ReadAt cell v := by
  unfold value at h
  obtain ⟨record, hrecord, h⟩ := Failing.bind_eq_ok.mp h
  obtain ⟨⟨stored, key, kind⟩, hhead, h⟩ := Failing.bind_eq_ok.mp h
  obtain ⟨raw, hraw, h⟩ := Failing.bind_eq_ok.mp h
  obtain ⟨data, hdata, h⟩ := Failing.bind_eq_ok.mp h
  cases h
  obtain ⟨c, hc, hcontent⟩ := Failing.bind_eq_ok.mp (Failing.mapError_eq_ok.mp hrecord)
  obtain ⟨-, -, hcontent⟩ := Failing.bind_eq_ok.mp hcontent
  cases hcontent
  obtain ⟨stored, -, rfl⟩ := cell_eq_ok.mp hc
  exact ⟨⟨_, hc⟩, by simp [Cell.content], Failing.mapError_eq_ok.mp hhead, hraw, rfl, data, hdata,
    rfl, rfl⟩

/-- The record of a value starts with the length of its name. -/
theorem value_eq_ok (h : im.value cell = .ok v) :
    v.handle = cell ∧ (∃ n, im.word (cell + cellHeaderSize + 2) = .ok n) ∧ v.Sound := by
  have hread := readAt_of_value h
  obtain ⟨n, hn, -⟩ := Failing.bind_eq_ok.mp hread.head
  obtain ⟨data, hdata, hshown, hdecoded⟩ := hread.data
  refine ⟨hread.handle, ⟨n, hn⟩, hread.length, fun hnone => ?_, fun hsome => ?_⟩
  · rw [hdecoded, Option.isSome_eq_false_iff, Option.isNone_iff_eq_none] at hnone
    subst hnone
    exact ⟨isText_of_decodePayload hdata, hshown⟩
  · obtain ⟨p, rfl⟩ := Option.isSome_iff_exists.mp (hdecoded ▸ hsome)
    rw [hshown]
    exact promises_of_decodePayload hdata

/-! ## Questions about a value -/

/-- A handle names the record in its cell, or none. -/
theorem recordOfHandle_cases (im : Image) (kind : RecordKind) (handle : Int) :
    im.recordOfHandle kind handle = .ok (handle + cellHeaderSize) ∨
      ∃ reason, im.recordOfHandle kind handle = .error (.noRecord kind handle reason) := by
  cases hc : im.cell handle with
  | error fault =>
    refine .inr ⟨some fault, ?_⟩
    simp only [recordOfHandle, hc, bind, Except.bind, Failing.mapError_error]
  | ok c =>
    obtain ⟨stored, -, rfl⟩ := cell_eq_ok.mp hc
    by_cases hfree : (Cell.mk handle ((stored : Int).bmod 0x100000000)).isFree = true
    · exact .inr ⟨none, recordOfHandle_of_free kind ⟨_, hc, hfree⟩⟩
    · cases hletters : im.letters ⟨handle, (stored : Int).bmod 0x100000000⟩ with
      | error fault =>
        refine .inr ⟨some fault, ?_⟩
        simp only [recordOfHandle, hc, hfree, hletters, bind, Except.bind, Bool.false_eq_true,
          if_false, Failing.mapError_error]
      | ok letters =>
        by_cases hkind : letters = kind.signature
        · refine .inl ?_
          simp only [recordOfHandle, hc, hfree, hletters, hkind, bind, Except.bind,
            Bool.false_eq_true, if_false, ne_eq, not_true_eq_false, pure, Except.pure,
            Failing.mapError_ok, Cell.content]
        · refine .inr ⟨none, ?_⟩
          simp only [recordOfHandle, hc, hfree, hletters, hkind, bind, Except.bind,
            Bool.false_eq_true, if_false, if_true, ne_eq, not_false_eq_true, pure, Except.pure,
            Failing.mapError_ok]
          rfl

variable {length : Int} {fault : Fault}

theorem valueLength_eq_error (h : im.value cell = .ok v) (hf : im.valueLength v = .error fault) :
    ∃ reason, fault = .noRecord .value v.handle reason := by
  obtain ⟨rfl, ⟨n, hn⟩, -⟩ := value_eq_ok h
  unfold valueLength at hf
  rcases recordOfHandle_cases im .value v.handle with hrecord | ⟨reason, hrecord⟩
  · rw [hrecord] at hf
    rcases Failing.bind_eq_error.mp hf with hf | ⟨record, heq, hf⟩
    · cases hf
    · cases heq
      rw [hn] at hf
      cases hf
  · rw [hrecord] at hf
    cases hf
    exact ⟨reason, rfl⟩

theorem dataCell_eq_error (hf : im.dataCell v = .error fault) :
    (∃ reason, fault = .noRecord .value v.handle reason) ∨
      ∃ cause, fault = .unreadableDataCell v.handle cause := by
  unfold dataCell at hf
  rcases Failing.bind_eq_error.mp hf with hf | ⟨record, -, hf⟩
  · rcases recordOfHandle_cases im .value v.handle with hrecord | ⟨reason, hrecord⟩
    · rw [hrecord] at hf
      cases hf
    · rw [hrecord] at hf
      cases hf
      exact .inl ⟨reason, rfl⟩
  · obtain ⟨cause, -, rfl⟩ := Failing.mapError_eq_error.mp hf
    exact .inr ⟨cause, rfl⟩

end Image

namespace Report

open HiveDump.Action Markup Markup.Tree

/-! ## Showing a value -/

theorem valueShown_of_parts {v : Value} {shape : Shape} {p : Payload} {type : String}
    {shown : ValueShown} (hpresented : v.presentation = .ok (shape, p))
    (htype : valueType shape v = .ok type) (hpayload : payloadShown shape v p = .ok shown) :
    ∃ shown', valueShown v = .ok shown' := by
  unfold valueShown
  rw [hpresented]
  change ∃ shown', (valueType shape v >>= fun type => payloadShown shape v p >>= fun shown =>
    Except.ok _) = .ok shown'
  rw [htype]
  change ∃ shown', (payloadShown shape v p >>= fun shown => Except.ok _) = .ok shown'
  rw [hpayload]
  exact ⟨_, rfl⟩

theorem payloadShown_text (v : Value) (s : String) :
    payloadShown .string v (.text s) =
      .ok { attributes := textShown "value" "value_encoding" s } := by
  change (dataShown _ _ (.text s)).map _ = _
  rw [dataShown_text]
  rfl

/-- **What keeps the contract can be shown.** -/
theorem exists_valueShown {v : Value} (h : v.Sound) : ∃ shown, valueShown v = .ok shown := by
  obtain ⟨handle, key, storedKey, kind, length, data, raw, decoded⟩ := v
  obtain ⟨-, hundecoded, hdecoded⟩ := h
  cases decoded with
  | false =>
    obtain ⟨htext, -⟩ := hundecoded rfl
    cases kind with
    | string | expandString | link | strings => exact valueShown_of_parts rfl rfl rfl
    | _ => cases htext
  | true =>
    have hpromise := hdecoded rfl
    cases kind with
    | string | expandString | link =>
      obtain ⟨s, rfl, -⟩ : ∃ s, data = .text s ∧ '\x00' ∉ s.toList := hpromise
      exact valueShown_of_parts rfl rfl (payloadShown_text _ s)
    | strings =>
      obtain ⟨ss, rfl, -⟩ : ∃ ss : List String, data = .texts (ss.map some) ∧ _ := hpromise
      exact valueShown_of_parts rfl rfl rfl
    | dword | dwordBigEndian | qword =>
      obtain ⟨n, rfl, -⟩ := hpromise
      exact valueShown_of_parts rfl rfl rfl
    | _ => exact valueShown_of_parts rfl rfl rfl

/-- A question about a value of an image that fails is given up. -/
theorem survives_valueRuns (h : HiveFile) {cell : Int} {v : Value}
    (hv : h.image.value cell = .ok v) : Survives (valueRuns h.source v) := by
  intro fault hf
  unfold valueRuns at hf
  cases hlength : h.source.valueLength v with
  | error reason =>
    rw [hlength] at hf
    cases hf
    obtain ⟨_, rfl⟩ := Image.valueLength_eq_error hv hlength
    rfl
  | ok length =>
    rw [hlength] at hf
    cases hcell : h.source.dataCell v with
    | error reason =>
      rw [hcell] at hf
      cases hf
      rcases Image.dataCell_eq_error hcell with ⟨_, rfl⟩ | ⟨_, rfl⟩ <;> rfl
    | ok cell =>
      rw [hcell] at hf
      cases hf

/-! ## Documents that are being written -/

/-- Whether a document is being written whose root is open, in whatever encoding. -/
def IsOpen (w : Writer) : Prop :=
  ∃ encoding g, g.Rooted rootName [] ∧ Stands encoding g w

/-- The root of a document is opened behind its start. -/
theorem isOpen_start {label : String} {cs : Charset} (h : Writer.Usable label cs) :
    ∃ w, ({ label := label } : Writer).call (do
      Writer.startDocument
      Writer.startElement rootName) = (.ok (), w) ∧ IsOpen w := by
  obtain ⟨w, hstart, hw⟩ : ∃ w, ({ label := label } : Writer).call Writer.startDocument =
      (.ok (), w) ∧ Stands label {} w := Writer.At.startDocument h
  obtain ⟨w', hopen, hw'⟩ := Writer.At.startElement hw (by decide : isName rootName = true) trivial
  refine ⟨w', ?_, label, _, ⟨[], rfl⟩, hw'.holds⟩
  rw [Writer.call_bind, hstart]
  exact hopen

end Report

namespace HiveFile

open Report

/-- A value that can be read of a list lies in a cell of the image. -/
theorem value_of_mem_values (h : HiveFile) {n : Node} {v : Value}
    (hv : v ∈ Listing.good (h.source.values n)) : ∃ cell, h.image.value cell = .ok v := by
  obtain ⟨es, hes, e, he, hgood⟩ := Listing.mem_good.mp hv
  obtain ⟨record, -, hes⟩ := Failing.bind_eq_ok.mp hes
  obtain ⟨cells, -, hes⟩ := Failing.bind_eq_ok.mp hes
  cases hes
  obtain ⟨cell, -, rfl⟩ := List.mem_map.mp he
  exact ⟨cell, outcome_entryAt.mp hgood⟩

/-- **No value of an image ends a report.** Each value that a list of an image delivers keeps the
contract, has a shape, and is written into every document whose root is open, under every policy
that never raises; the root is open again behind it. Such a document is started in any encoding that
has markup. -/
theorem value_succeeds :
    (∀ (h : HiveFile) (n : Node) (v : Value), v ∈ Listing.good (h.source.values n) →
      v.Sound ∧ (∃ shape p, v.presentation = .ok (shape, p)) ∧
        ∀ s : Session Writer, IsOpen s.output → s.policy.NeverRaises →
          ∃ t, (Report.value h.source v).perform s = (.ok (), t) ∧ IsOpen t.output) ∧
    ∀ (label : String) (cs : Charset), Writer.Usable label cs →
      ∃ w, ({ label := label } : Writer).call (do
        Writer.startDocument
        Writer.startElement rootName) = (.ok (), w) ∧ IsOpen w := by
  refine ⟨fun h n v hv => ?_, fun _ _ => isOpen_start⟩
  obtain ⟨cell, hcell⟩ := h.value_of_mem_values hv
  obtain ⟨-, -, hsound⟩ := Image.value_eq_ok hcell
  obtain ⟨shown, hshown⟩ := exists_valueShown hsound
  refine ⟨hsound, ?_, fun s hopen hp => ?_⟩
  · obtain ⟨⟨shape, p⟩, hpresented, -⟩ := Failing.bind_eq_ok.mp hshown
    exact ⟨shape, p, hpresented⟩
  · obtain ⟨encoding, g, hroot, hstands⟩ := hopen
    obtain ⟨w, hdoes, hw⟩ := brings_value (outer_ne_nil_of_rooted hroot) hshown
      (survives_valueRuns h hcell) s.output hstands
    obtain ⟨ds, hperform⟩ := hdoes.perform hp
    exact ⟨_, hperform, encoding, _, hroot.add _, hw⟩

section Odd

open Layout

/-- Every value of a key that was laid out is delivered. -/
theorem exists_value_of_stands {im : Image} (hb : Binned im) {cell root : Nat}
    {head rootHead : KeyHead} {values : List (Nat × ValueDraft)} {subkeys : Option (KeyList Nat)}
    (hs : (Key.key cell head values subkeys).Stands im)
    (hf : (Key.key cell head values subkeys).Fits) (path : String) (tracing : Bool)
    {p : Nat × ValueDraft} (hp : p ∈ values) :
    ∃ v ∈ Listing.good ((sourceOf path im tracing root rootHead).values (nodeOf cell head)),
      IsValue p.1 p.2 v := by
  obtain ⟨v, hv, hsame⟩ := value_eq hb (hf.own.2 p hp) (hs.keyAt.values p hp)
  have hentry := List.mem_map_of_mem (f := entryAt .values im.value (valueTrace path tracing))
    (List.mem_map_of_mem (f := fun d => (place d : Int)) (List.mem_map_of_mem (f := (·.1)) hp))
  exact ⟨v, Listing.mem_good.mpr
    ⟨_, values_of_stands hb hs, _, hentry, outcome_entryAt.mpr hv⟩, hsame⟩

/-- A root that has one value. -/
def singleTree (d : ValueDraft) : Key Unit :=
  .key () { name := .oneByte "root", isRoot := true } [((), d)] none

/-- The image with this root delivers the value. -/
theorem exists_value_singleTree {d : ValueDraft} (hd : d.Fits)
    (hsize : binHeaderSize + ((singleTree d).draw.run []).2.length ≤ 2 ^ 32) :
    ∃ (h : HiveFile) (n : Node) (v : Value), h.image = Layout.image 7 (singleTree d) ∧
      v ∈ Listing.good (h.source.values n) ∧ v.kind = Kind.ofId d.typeId ∧ v.raw = d.payload := by
  have hfits : (singleTree d).Fits := by
    refine ⟨by decide, fun p hp => ?_⟩
    rw [List.mem_singleton.mp hp]
    exact hd
  obtain ⟨cells, hrun, hleft⟩ := Key.draws hfits []
  obtain ⟨cell, distance, hkey⟩ : ∃ cell distance, ((singleTree d).draw.run []).1 =
      .key cell { name := .oneByte "root", isRoot := true } [(distance, d)] none := ⟨_, _, rfl⟩
  rw [List.nil_append] at hrun hleft
  have him : Layout.image 7 (singleTree d) =
      imageOf 7 ((singleTree d).draw.run []).1.cell cells := by
    rw [← hrun]
    rfl
  rw [hrun] at hsize
  have htree := hleft _ (contains_imageOf 7 ((singleTree d).draw.run []).1.cell hsize)
  have hheaded := headed_imageOf 7 cells htree.stands.cell_lt
  rw [← him, hkey] at htree hheaded
  obtain ⟨v, hv, hsame⟩ := exists_value_of_stands hheaded.binned htree.stands htree.fits
    "hive" false List.mem_cons_self
  exact ⟨opened "hive" _ false cell { name := .oneByte "root", isRoot := true }, _, v, rfl, hv,
    hsame.kind, hsame.raw⟩

/-- A key with a value that is no text, although its kind is one. -/
def oddTree : Key Unit :=
  .key () { name := .oneByte "root", isRoot := true } [((), ⟨.oneByte "n", 1, [0x41]⟩)] none

/-- The image with this key delivers its value. -/
theorem exists_value_oddTree : ∃ (h : HiveFile) (n : Node) (v : Value),
    h.image = Layout.image 7 oddTree ∧ v ∈ Listing.good (h.source.values n) ∧ v.kind = .string ∧
      v.raw = [0x41] :=
  exists_value_singleTree (d := ⟨.oneByte "n", 1, [0x41]⟩)
    ⟨by decide, by decide, by decide, by decide, by decide, by decide⟩ (by decide +kernel)

theorem value_succeeds_oddTree :
    ∃ (h : HiveFile) (n : Node) (v : Value) (w : Writer), h.image = Layout.image 7 oddTree ∧
      v ∈ Listing.good (h.source.values n) ∧ v.raw = [0x41] ∧ v.Sound ∧
      Writer.Usable "utf-8" .utf8 ∧ Policy.standard.NeverRaises ∧ IsOpen w ∧
      ∃ t, (Report.value h.source v).perform ⟨w, .standard, {}, #[]⟩ = (.ok (), t) ∧
        IsOpen t.output := by
  obtain ⟨h, n, v, him, hv, -, hraw⟩ := exists_value_oddTree
  obtain ⟨w, -, hopen⟩ := value_succeeds.2 "utf-8" .utf8 Writer.usable_utf8
  obtain ⟨hsound, -, hwritten⟩ := value_succeeds.1 h n v hv
  exact ⟨h, n, v, w, him, hv, hraw, hsound, Writer.usable_utf8, Policy.neverRaises_standard, hopen,
    hwritten ⟨w, .standard, {}, #[]⟩ hopen Policy.neverRaises_standard⟩

end Odd

end HiveFile

end HiveDump
