import HiveDump.Proofs.Image.KeyRecord
import Mathlib.Data.List.Forall2

/-!
# Values that were laid out

A payload that was laid out stands in its value's record, in a cell of its own or in segments
(`PayloadAt`), and wherever it stands it is read as it was written. So is the record of its value.

Results:
* `segments_eq`: segments are put together again;
* **`payload_eq`**: a payload is read as it was written;
* **`value_eq`**: and so is a value, with its payload decoded as its kind asks for;
* `valueLength_eq`, `dataCell_eq`: where the record and the payload of a value lie.
-/

namespace HiveDump.Layout

variable {im : Image} {distance : Nat}

/-! ## Segments -/

theorem piecesOf_nil (size budget : Nat) : piecesOf size budget [] = [] := by
  cases budget <;> rfl

theorem piecesOf_of_ne_nil {b : Bytes} (h : b ≠ []) (size budget : Nat) :
    piecesOf size (budget + 1) b = b.take size :: piecesOf size budget (b.drop size) := by
  rw [piecesOf, if_neg (by simpa using h)]

theorem length_piecesOf {size : Nat} (hs : 0 < size) : ∀ (budget : Nat) (b : Bytes),
    b.length ≤ budget → (piecesOf size budget b).length = (b.length + size - 1) / size
  | 0, b, hb => by
    have h0 : b.length = 0 := Nat.le_zero.mp hb
    rw [piecesOf, h0, List.length_nil, Nat.div_eq_of_lt (by omega)]
  | budget + 1, b, hb => by
    by_cases hnil : b = []
    · rw [hnil, piecesOf_nil, List.length_nil, List.length_nil, Nat.div_eq_of_lt (by omega)]
    · have hpos : 0 < b.length := List.length_pos_iff.mpr hnil
      have ih := length_piecesOf hs budget (b.drop size) (by rw [List.length_drop]; omega)
      rw [piecesOf_of_ne_nil hnil, List.length_cons, ih, List.length_drop]
      by_cases hle : b.length ≤ size
      · rw [Nat.sub_eq_zero_of_le hle, Nat.div_eq_of_lt (by omega),
          Nat.div_eq_of_lt_le (k := 1) (by omega) (by omega)]
      · rw [show b.length + size - 1 = b.length - size + size - 1 + size by omega,
          Nat.add_div_right _ hs]

/-- Segments are put together again. -/
theorem segments_eq (hb : Binned im) : ∀ (budget : Nat) (b : Bytes) (cells : List Nat)
    (slot : Nat), b.length ≤ budget →
    List.Forall₂ (CellAt im) cells (piecesOf segmentSize budget b) →
    im.Holds slot (cells.flatMap dword) →
    im.segments slot (piecesOf segmentSize budget b).length b.length = .ok b
  | 0, b, cells, slot, hlen, _, _ => by
    rw [List.length_eq_zero_iff.mp (Nat.le_zero.mp hlen)]
    rfl
  | budget + 1, b, cells, slot, hlen, hcells, hh => by
    by_cases hnil : b = []
    · rw [hnil, piecesOf_nil]
      rfl
    · have hpos : 0 < b.length := List.length_pos_iff.mpr hnil
      rw [piecesOf_of_ne_nil hnil] at hcells ⊢
      obtain ⟨d, rest, hcell, htail, rfl⟩ := List.forall₂_cons_right_iff.mp hcells
      rw [List.flatMap_cons] at hh
      have hdword : im.dword (slot : Int) = .ok d := by
        have hn := hh.left.number
        rwa [length_dword, littleEndian_dword hcell.distance_lt] at hn
      have hright := hh.right
      rw [length_dword] at hright
      have ih := segments_eq hb budget (b.drop segmentSize) rest (slot + 4)
        (by rw [List.length_drop, segmentSize]; omega) htail hright
      rw [List.length_drop, Int.natCast_add] at ih
      have hpart := hcell.take_cellBytes
      rw [List.length_take] at hpart
      simp only [Image.segments, List.length_cons, hb.linked hdword, hcell.cell_eq, bind,
        Except.bind, hpart, List.length_take]
      have ih' : im.segments (slot + 4) (piecesOf segmentSize budget (b.drop segmentSize)).length
        (b.length - segmentSize) = .ok (b.drop segmentSize) := ih
      rw [ih']
      simp only [pure, Except.pure, List.take_append_drop]

/-! ## Payloads -/

/-- Where a payload stands for the two fields of its value's record, length and distance. -/
inductive PayloadAt (im : Image) (b : Bytes) : (length distance : Nat) → Prop
  | inline (hlen : b.length ≤ 4) : PayloadAt im b (0x80000000 + b.length) (Bytes.littleEndian b)
  | direct {distance : Nat} (hlen : 4 < b.length) (hle : b.length ≤ segmentSize)
    (hcell : CellAt im distance b) : PayloadAt im b b.length distance
  | segmented {distance slots : Nat} {cells : List Nat} (hlen : segmentSize < b.length)
    (hcells : List.Forall₂ (CellAt im) cells (segmentsOf b))
    (hslots : CellAt im slots (cells.flatMap dword))
    (hrecord : CellAt im distance (segmentsRecord cells.length slots)) :
    PayloadAt im b b.length distance

/-- Whether a value fits its record: numbers have the width of their kind. -/
structure ValueDraft.Fits (v : ValueDraft) : Prop where
  name : v.name.Fits
  typeId : v.typeId < 2 ^ 32
  length : v.payload.length < 2 ^ 31
  segments : (segmentsOf v.payload).length < 2 ^ 16
  dword : v.typeId = 4 ∨ v.typeId = 5 → v.payload.length = 4
  qword : v.typeId = 11 → v.payload.length = 8

/-- Whether a value was laid out in the cell at a distance. -/
def ValueAt (im : Image) (distance : Nat) (v : ValueDraft) : Prop :=
  ∃ length start, PayloadAt im v.payload length start ∧
    CellAt im distance (valueRecord v length start)

/-- The record of a value, each field in front of those that follow it. -/
theorem valueRecord_eq (v : ValueDraft) (length start : Nat) :
    valueRecord v length start =
      RecordKind.value.signature ++ (word v.name.bytes.length ++ (dword length ++ (dword start ++
        (dword v.typeId ++ (word (if v.name.isOneByte then Image.valueOneByteFlag else 0) ++
          (word 0 ++ v.name.bytes)))))) := by
  simp only [valueRecord, List.append_assoc]

theorem length_valueRecord (v : ValueDraft) (length start : Nat) :
    (valueRecord v length start).length = 0x14 + v.name.bytes.length := by
  simp only [valueRecord, List.length_append, length_word, length_dword, length_signature]

theorem take_ofLittleEndian (k n : Nat) : ∀ w, k ≤ w →
    (Bytes.ofLittleEndian w n).take k = Bytes.ofLittleEndian k n := by
  induction k generalizing n with
  | zero => simp [Bytes.ofLittleEndian]
  | succ k ih =>
    intro w hw
    obtain ⟨w, rfl⟩ : ∃ u, w = u + 1 := ⟨w - 1, by omega⟩
    simp only [Bytes.ofLittleEndian, List.take_succ_cons, ih (n / 256) w (by omega)]

/-- A short payload stands in the field for its distance. -/
theorem take_dword_littleEndian {b : Bytes} (h : b.length ≤ 4) :
    (dword (Bytes.littleEndian b)).take b.length = b := by
  rw [dword, take_ofLittleEndian _ _ 4 h, Bytes.ofLittleEndian_littleEndian]

variable {v : ValueDraft} {length start : Nat}

theorem two_le_length_valueRecord : 2 ≤ (valueRecord v length start).length := by
  rw [length_valueRecord]
  omega

theorem take_valueRecord :
    (valueRecord v length start).take 2 = RecordKind.value.signature := by
  simp only [valueRecord_eq, take_signature]

/-- A number of the fixed part of a value's record. -/
theorem valueField_eq (h : im.Holds (place distance + 4) (valueRecord v length start)) {i w n : Nat}
    (hi : i + w ≤ 0x14) (hn : n < 256 ^ w)
    (hb : ((valueRecord v length start).drop i).take w = Bytes.ofLittleEndian w n) {field : Int}
    (hf : field = ((place distance + 4 : Nat) : Int) + i) : im.number field w = .ok n := by
  rw [h.field i w hf (by rw [length_valueRecord]; omega), hb,
    Bytes.littleEndian_ofLittleEndian, Nat.mod_eq_of_lt hn]

theorem payloadLength_eq (h : im.Holds (place distance + 4) (valueRecord v length start))
    (hl : length < 2 ^ 32) :
    im.payloadLength ((place distance + 4 : Nat) : Int) = .ok ⟨length⟩ := by
  have hb : ((valueRecord v length start).drop 4).take 4 = dword length := by
    simp only [valueRecord_eq, drop_signature, drop_word, List.drop_zero,
      take_dword]
  have hd : im.dword (((place distance + 4 : Nat) : Int) + 4) = .ok length :=
    valueField_eq h (by omega) (by omega) hb (by omega)
  rw [Image.payloadLength, hd]
  rfl

theorem payloadDistance_eq (h : im.Holds (place distance + 4) (valueRecord v length start))
    (hs : start < 2 ^ 32) :
    im.dword (((place distance + 4 : Nat) : Int) + 8) = .ok start := by
  have hb : ((valueRecord v length start).drop 8).take 4 = dword start := by
    simp only [valueRecord_eq, drop_signature, drop_word, drop_dword,
      List.drop_zero, take_dword]
  exact valueField_eq h (by omega) (by omega) hb (by omega)

theorem inlineBytes_eq
    (h : im.Holds (place distance + 4) (valueRecord v length (Bytes.littleEndian v.payload)))
    (hle : v.payload.length ≤ 4) :
    im.slice (((place distance + 4 : Nat) : Int) + 8)
      (((place distance + 4 : Nat) : Int) + 8 + (v.payload.length : Nat)) = v.payload := by
  have hpart := h.part (i := 8) (w := v.payload.length)
    (by rw [length_valueRecord]; omega)
  have hb : ((valueRecord v length (Bytes.littleEndian v.payload)).drop 8).take v.payload.length =
      v.payload := by
    simp only [valueRecord_eq, drop_signature, drop_word, drop_dword,
      List.drop_zero]
    rw [List.take_append_of_le_length (by rw [length_dword]; exact hle)]
    exact take_dword_littleEndian hle
  rw [hb] at hpart
  exact hpart.slice (by omega) (by omega)

theorem payloadCell_eq (hb : Binned im)
    (h : im.Holds (place distance + 4) (valueRecord v length start)) {content : Bytes}
    (hc : CellAt im start content) :
    im.payloadCell ((place distance + 4 : Nat) : Int) =
      .ok ⟨place start, -(cellSize content.length : Int)⟩ := by
  simp only [Image.payloadCell, hb.linked (payloadDistance_eq h hc.distance_lt), bind, Except.bind,
    hc.cell_eq]

theorem take_segmentsRecord (count slots : Nat) :
    (segmentsRecord count slots).take 2 = Image.segmentedLetters := by
  rw [segmentsRecord, List.append_assoc]
  exact take_field (w := 2) rfl _

/-- A payload in segments is put together again. -/
theorem segmented_eq (hb : Binned im) {b : Bytes} {slots : Nat} {cells : List Nat}
    (hcells : List.Forall₂ (CellAt im) cells (segmentsOf b))
    (hslots : CellAt im slots (cells.flatMap dword))
    (hrecord : CellAt im start (segmentsRecord cells.length slots)) :
    im.segmented ((place start + 4 : Nat) : Int) b.length = .ok b := by
  have hdword : im.dword (((place start + 4 : Nat) : Int) + 4) = .ok slots := by
    have hn := hrecord.content_holds.right.number
    rwa [length_dword, littleEndian_dword hslots.distance_lt] at hn
  have hcount : (b.length + segmentSize - 1) / segmentSize = (segmentsOf b).length :=
    (length_piecesOf (by decide) b.length b (Nat.le_refl _)).symm
  simp only [Image.segmented, hb.linked hdword, hslots.cell_eq, content_eq, bind, Except.bind,
    hcount]
  exact segments_eq hb b.length b cells _ (Nat.le_refl _) hcells hslots.content_holds

theorem holdsSegments_eq {b : Bytes} {slots count : Nat} (hlen : segmentSize < b.length)
    (hrecord : CellAt im start (segmentsRecord count slots)) :
    im.holdsSegments ⟨place start, -(cellSize (segmentsRecord count slots).length : Int)⟩
      b.length = .ok true := by
  have htwo : 2 ≤ (segmentsRecord count slots).length := by
    rw [segmentsRecord, List.append_assoc, List.length_append]
    exact Nat.le_add_right 2 _
  have hletters := hrecord.letters_eq htwo (-(cellSize (segmentsRecord count slots).length : Int))
  have hchild := hrecord.child htwo (by rw [take_segmentsRecord]; decide)
  rw [take_segmentsRecord] at hletters hchild
  simp only [Image.holdsSegments, if_neg (Nat.not_le.mpr hlen), hletters, hchild, bind, Except.bind,
    ne_eq, not_true_eq_false, if_false]
  rfl

/-- **A payload is read as it was written.** -/
theorem payload_eq (hb : Binned im) (hf : v.Fits) (hp : PayloadAt im v.payload length start)
    (h : im.Holds (place distance + 4) (valueRecord v length start)) :
    im.payload ((place distance + 4 : Nat) : Int) = .ok v.payload := by
  have hlt := hf.length
  cases hp with
  | inline hlen =>
    have hl := payloadLength_eq h (by omega)
    have hin : PayloadLength.isInline ⟨0x80000000 + v.payload.length⟩ = true := by
      simp only [PayloadLength.isInline, beq_iff_eq]
      omega
    have hmin : min (PayloadLength.bytes ⟨0x80000000 + v.payload.length⟩) 4 = v.payload.length := by
      simp only [PayloadLength.bytes]
      omega
    simp only [Image.payload, hl, bind, Except.bind, Failing.mapError_ok, hin, if_true, hmin,
      inlineBytes_eq h hlen]
    rfl
  | direct hlen hle hcell =>
    have hl := payloadLength_eq h (by omega)
    have hin : PayloadLength.isInline ⟨v.payload.length⟩ = false := by
      simp only [PayloadLength.isInline, beq_eq_false_iff_ne]
      omega
    have hbytes : PayloadLength.bytes ⟨v.payload.length⟩ = v.payload.length :=
      Nat.mod_eq_of_lt hlt
    have hholds : im.holdsSegments ⟨place start, -(cellSize v.payload.length : Int)⟩
        v.payload.length = .ok false := by
      simp only [Image.holdsSegments, if_pos hle]
      rfl
    simp only [Image.payload, hl, bind, Except.bind, Failing.mapError_ok, hin, hbytes,
      payloadCell_eq hb h hcell, hholds, hcell.take_cellBytes, Bool.false_eq_true, if_false,
      if_true]
    rfl
  | segmented hlen hcells hslots hrecord =>
    have hl := payloadLength_eq h (by omega)
    have hin : PayloadLength.isInline ⟨v.payload.length⟩ = false := by
      simp only [PayloadLength.isInline, beq_eq_false_iff_ne]
      omega
    have hbytes : PayloadLength.bytes ⟨v.payload.length⟩ = v.payload.length :=
      Nat.mod_eq_of_lt hlt
    simp only [Image.payload, hl, bind, Except.bind, Failing.mapError_ok, hin, hbytes,
      payloadCell_eq hb h hrecord, holdsSegments_eq hlen hrecord, content_eq,
      segmented_eq hb hcells hslots hrecord, Bool.false_eq_true, if_false, if_true]

/-! ## Values -/

theorem valueFlags_lt (v : ValueDraft) :
    (if v.name.isOneByte then Image.valueOneByteFlag else 0) < 2 ^ 16 := by
  split <;> decide

theorem oneByte_of_valueFlags (v : ValueDraft) :
    decide ((if v.name.isOneByte then Image.valueOneByteFlag else 0) &&&
      Image.valueOneByteFlag ≠ 0) = v.name.isOneByte := by
  cases v.name.isOneByte <;> decide

theorem valueNameLength_eq (hf : v.name.Fits)
    (h : im.Holds (place distance + 4) (valueRecord v length start)) :
    im.word (((place distance + 4 : Nat) : Int) + 2) = .ok v.name.bytes.length := by
  have hb : ((valueRecord v length start).drop 2).take 2 = word v.name.bytes.length := by
    simp only [valueRecord_eq, drop_signature, List.drop_zero, take_word]
  exact valueField_eq h (by omega) hf.length hb (by omega)

theorem valueHead_eq (hf : v.Fits)
    (h : im.Holds (place distance + 4) (valueRecord v length start)) :
    im.valueHead ((place distance + 4 : Nat) : Int) =
      .ok (v.name.bytes, v.name.text?, Kind.ofId v.typeId) := by
  have hname := valueNameLength_eq hf.name h
  have hflags : im.word (((place distance + 4 : Nat) : Int) + 0x10) =
      .ok (if v.name.isOneByte then Image.valueOneByteFlag else 0) := by
    have hb : ((valueRecord v length start).drop 0x10).take 2 =
        word (if v.name.isOneByte then Image.valueOneByteFlag else 0) := by
      simp only [valueRecord_eq, drop_signature, drop_word, drop_dword,
        List.drop_zero, take_word]
    exact valueField_eq h (by omega) (valueFlags_lt v) hb (by omega)
  have hkind : im.dword (((place distance + 4 : Nat) : Int) + 0xC) = .ok v.typeId := by
    have hb : ((valueRecord v length start).drop 0xC).take 4 = dword v.typeId := by
      simp only [valueRecord_eq, drop_signature, drop_word, drop_dword,
        List.drop_zero, take_dword]
    exact valueField_eq h (by omega) hf.typeId hb (by omega)
  have hslice : im.slice (((place distance + 4 : Nat) : Int) + 0x14)
      (((place distance + 4 : Nat) : Int) + 0x14 + (v.name.bytes.length : Nat)) =
        v.name.bytes := by
    have hpart := h.part (i := 0x14) (w := v.name.bytes.length)
      (Nat.le_of_eq (length_valueRecord ..).symm)
    have hb : (valueRecord v length start).drop 0x14 = v.name.bytes := by
      simp only [valueRecord_eq, drop_signature, drop_word, drop_dword,
        List.drop_zero]
    rw [hb, List.take_length] at hpart
    exact hpart.slice (by omega) (by omega)
  simp only [Image.valueHead, hname, hflags, hkind, hslice, bind, Except.bind,
    oneByte_of_valueFlags, decodeStoredName_bytes hf.name]
  rfl

/-- A payload of the width of its kind can be decoded, if only as undecodable text. -/
theorem decodePayload_eq (hf : v.Fits) (handle : Int) :
    ∃ data, decodePayload handle (Kind.ofId v.typeId) v.payload = .ok data := by
  have hid := Kind.id_ofId v.typeId
  cases hk : Kind.ofId v.typeId with
  | dword =>
    rw [hk] at hid
    have hlen := hf.dword (.inl (by simp only [Kind.id] at hid; omega))
    exact ⟨_, if_pos hlen⟩
  | dwordBigEndian =>
    rw [hk] at hid
    have hlen := hf.dword (.inr (by simp only [Kind.id] at hid; omega))
    exact ⟨_, if_pos hlen⟩
  | qword =>
    rw [hk] at hid
    have hlen := hf.qword (by simp only [Kind.id] at hid; omega)
    exact ⟨_, if_pos hlen⟩
  | _ => exact ⟨_, rfl⟩

/-- Whether a value that was read is the one that was laid out in the cell at a distance. -/
structure IsValue (distance : Nat) (v : ValueDraft) (w : Value) : Prop where
  handle : w.handle = place distance
  key : w.key = v.name.text?
  storedKey : w.storedKey = v.name.bytes
  kind : w.kind = Kind.ofId v.typeId
  length : w.length = v.payload.length
  raw : w.raw = v.payload
  decoded : ∃ data, decodePayload (place distance) w.kind v.payload = .ok data ∧
    w.data = data.getD .absent ∧ w.decoded = data.isSome

/-- The record of a value is read as one in a cell of any size, in use or not. -/
theorem value_of_holds {stored : Int} (hb : Binned im) (hf : v.Fits)
    (hp : PayloadAt im v.payload length start)
    (hc : im.cell (place distance : Int) = .ok ⟨place distance, stored⟩)
    (h : im.Holds (place distance + 4) (valueRecord v length start)) :
    ∃ w, im.value (place distance : Int) = .ok w ∧ IsValue distance v w := by
  obtain ⟨data, hdata⟩ := decodePayload_eq hf (place distance)
  have hhandle : ((place distance + 4 : Nat) : Int) - cellHeaderSize = place distance := by
    rw [cellHeaderSize]
    omega
  refine ⟨{ handle := place distance, key := v.name.text?, storedKey := v.name.bytes,
            kind := Kind.ofId v.typeId, length := v.payload.length, data := data.getD .absent,
            raw := v.payload, decoded := data.isSome }, ?_, ?_⟩
  · simp only [Image.value, record_eq hc h two_le_length_valueRecord take_valueRecord, bind,
      Except.bind, Failing.mapError_ok, valueHead_eq hf h, payload_eq hb hf hp h, hhandle, hdata]
    rfl
  · exact ⟨rfl, rfl, rfl, rfl, rfl, rfl, data, hdata, rfl, rfl⟩

/-- **A value is read as it was laid out.** -/
theorem value_eq (hb : Binned im) (hf : v.Fits) (h : ValueAt im distance v) :
    ∃ w, im.value (place distance : Int) = .ok w ∧ IsValue distance v w := by
  obtain ⟨length, start, hp, hc⟩ := h
  exact value_of_holds hb hf hp hc.cell_eq hc.content_holds

/-! ## Questions about a value -/

/-- The length of a value's record is that of its fixed part and its name. -/
theorem valueLength_eq (hf : v.name.Fits) (h : CellAt im distance (valueRecord v length start))
    {w : Value} (hw : w.handle = place distance) :
    im.valueLength w = .ok ((Image.valueFixedSize + v.name.bytes.length : Nat) : Int) := by
  simp only [Image.valueLength, hw, h.recordOfHandle two_le_length_valueRecord take_valueRecord,
    valueNameLength_eq hf h.content_holds, bind, Except.bind, Except.map, Failing.mapError_ok]

/-- A payload that does not stand in the record has a cell, with its size in front of it. -/
theorem dataCell_eq (hb : Binned im) (h : CellAt im distance (valueRecord v length start))
    (hl : length < 2 ^ 31) (hs : start < 2 ^ 32) {w : Value} (hw : w.handle = place distance) :
    im.dataCell w = .ok (place start, (length : Int) + 4) := by
  have hin : PayloadLength.isInline ⟨length⟩ = false := by
    simp only [PayloadLength.isInline, beq_eq_false_iff_ne]
    omega
  have hbytes : PayloadLength.bytes ⟨length⟩ = length := Nat.mod_eq_of_lt hl
  simp only [Image.dataCell, hw, h.recordOfHandle two_le_length_valueRecord take_valueRecord,
    payloadLength_eq h.content_holds (by omega), hin, hbytes,
    hb.linked (payloadDistance_eq h.content_holds hs), bind, Except.bind, Bool.false_eq_true,
    if_false, Failing.mapError_ok, pure, Except.pure]

end HiveDump.Layout
