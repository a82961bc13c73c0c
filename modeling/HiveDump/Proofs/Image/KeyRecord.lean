import HiveDump.Proofs.Image.Cells
import HiveDump.Proofs.Image.Sight

/-!
# Keys that were laid out

The record of a key that was laid out is read field by field as it was written: name, stored name,
time stamp, and the counts and distances of its two lists.

Results:
* **`node_eq`**: the node in the cell of a key is the key's;
* `nodeTimestamp_eq`, `nodeLength_eq`: its time stamp is the key's, zero meaning none, and its
  length that of the record;
* `subkeyCount_eq`, `valueCount_eq`, `subkeyDistance_eq`, `valueDistance_eq`: its lists.
-/

namespace HiveDump.Layout

variable {im : Image} {distance : Nat}

/-! ## Names -/

/-- Whether a name fits its record: its length takes two bytes, and so does no character of a name
in one byte a character take more than one. -/
structure StoredName.Fits (name : StoredName) : Prop where
  length : name.bytes.length < 2 ^ 16
  chars : ∀ text, name = .oneByte text → ∀ c ∈ text.toList, c.toNat < 256

theorem StoredName.fits_oneByte_iff (text : String) :
    (StoredName.oneByte text).Fits ↔
      text.toList.length < 2 ^ 16 ∧ (text.toList.all fun c => c.toNat < 256) = true := by
  have hlength : (StoredName.oneByte text).bytes.length = text.toList.length := List.length_map _
  rw [List.all_eq_true]
  refine ⟨fun h => ⟨hlength ▸ h.length, fun c hc => decide_eq_true (h.chars text rfl c hc)⟩,
    fun h => ⟨hlength ▸ h.1, fun other hother c hc => ?_⟩⟩
  cases hother
  exact of_decide_eq_true (h.2 c hc)

theorem StoredName.fits_wide_iff (bytes : Bytes) :
    (StoredName.wide bytes).Fits ↔ bytes.length < 2 ^ 16 :=
  ⟨fun h => h.length, fun h => ⟨h, fun _ hother => by cases hother⟩⟩

instance : (name : StoredName) → Decidable name.Fits
  | .oneByte text => decidable_of_decidable_of_iff (StoredName.fits_oneByte_iff text).symm
  | .wide bytes => decidable_of_decidable_of_iff (StoredName.fits_wide_iff bytes).symm

theorem ofNat_toNat_ofNat {c : Char} (h : c.toNat < 256) :
    Char.ofNat (UInt8.ofNat c.toNat).toNat = c := by
  rw [UInt8.toNat_ofNat', Nat.mod_eq_of_lt h, Char.ofNat_toNat]

/-- A stored name is decoded to the name's text. -/
theorem decodeStoredName_bytes {name : StoredName} (h : name.Fits) :
    decodeStoredName name.isOneByte name.bytes = name.text? := by
  cases name with
  | wide bytes => rfl
  | oneByte text =>
    have hmap : (text.toList.map fun c => UInt8.ofNat c.toNat).map
        (fun b => Char.ofNat b.toNat) = text.toList := by
      rw [List.map_map]
      conv => rhs; rw [← List.map_id text.toList]
      exact List.map_congr_left fun c hc => ofNat_toNat_ofNat (h.chars text rfl c hc)
    simp only [decodeStoredName, StoredName.isOneByte, StoredName.bytes, StoredName.text?, hmap,
      if_true, String.ofList_toList]

/-! ## The record of a key -/

/-- Whether a key's own fields fit its record. -/
structure KeyHead.Fits (head : KeyHead) : Prop where
  name : head.name.Fits
  timestamp : head.timestamp < 2 ^ 64

theorem KeyHead.fits_iff (head : KeyHead) :
    head.Fits ↔ head.name.Fits ∧ head.timestamp < 2 ^ 64 :=
  ⟨fun h => ⟨h.name, h.timestamp⟩, fun h => ⟨h.1, h.2⟩⟩

instance (head : KeyHead) : Decidable head.Fits :=
  decidable_of_decidable_of_iff head.fits_iff.symm

/-- The node of a key in the cell at a distance. -/
def nodeOf (distance : Nat) (head : KeyHead) : Node :=
  { handle := place distance, name := head.name.text?, storedName := head.name.bytes }

variable {head : KeyHead} {subkeyCount subkeys valueCount values : Nat}

/-- The record of a key, each field in front of those that follow it. -/
theorem keyRecord_eq (head : KeyHead) (subkeyCount subkeys valueCount values : Nat) :
    keyRecord head subkeyCount subkeys valueCount values =
      RecordKind.node.signature ++ (word head.flags ++ (Bytes.ofLittleEndian 8 head.timestamp ++
        (dword 0 ++ (dword 0 ++ (dword subkeyCount ++ (dword 0 ++ (dword subkeys ++
          (dword noCell ++ (dword valueCount ++ (dword values ++ (dword noCell ++
            (dword noCell ++ (zeros 20 ++ (word head.name.bytes.length ++
              (word 0 ++ head.name.bytes))))))))))))))) := by
  simp only [keyRecord, List.append_assoc]

theorem length_keyRecord (head : KeyHead) (subkeyCount subkeys valueCount values : Nat) :
    (keyRecord head subkeyCount subkeys valueCount values).length =
      0x4C + head.name.bytes.length := by
  simp only [keyRecord, List.length_append, length_word, length_dword, Bytes.length_ofLittleEndian,
    length_zeros, RecordKind.signature, List.length_cons, List.length_nil]

theorem drop_keyRecord (head : KeyHead) (subkeyCount subkeys valueCount values : Nat) :
    (keyRecord head subkeyCount subkeys valueCount values).drop 0x4C = head.name.bytes := by
  simp only [keyRecord_eq, drop_signature, drop_word, drop_dword, drop_qword,
    drop_zeros, List.drop_zero]

theorem flags_lt (head : KeyHead) : head.flags < 2 ^ 16 := by
  unfold KeyHead.flags
  cases head.name.isOneByte <;> cases head.isRoot <;> decide

theorem oneByte_of_flags (head : KeyHead) :
    decide (head.flags &&& Image.nodeOneByteFlag ≠ 0) = head.name.isOneByte := by
  unfold KeyHead.flags
  cases head.name.isOneByte <;> cases head.isRoot <;> decide

theorem take_keyRecord :
    (keyRecord head subkeyCount subkeys valueCount values).take 2 = RecordKind.node.signature := by
  simp only [keyRecord_eq, take_signature]

theorem two_le_length_keyRecord :
    2 ≤ (keyRecord head subkeyCount subkeys valueCount values).length := by
  rw [length_keyRecord]
  omega

/-- A number of the fixed part of a key's record. -/
theorem keyField_eq
    (h : im.Holds (place distance + 4) (keyRecord head subkeyCount subkeys valueCount values))
    {i w n : Nat}
    (hi : i + w ≤ 0x4C) (hn : n < 256 ^ w)
    (hb : ((keyRecord head subkeyCount subkeys valueCount values).drop i).take w =
      Bytes.ofLittleEndian w n) {field : Int}
    (hf : field = ((place distance + 4 : Nat) : Int) + i) : im.number field w = .ok n := by
  rw [h.field i w hf (by rw [length_keyRecord]; omega), hb,
    Bytes.littleEndian_ofLittleEndian, Nat.mod_eq_of_lt hn]

theorem nameLength_eq
    (h : im.Holds (place distance + 4) (keyRecord head subkeyCount subkeys valueCount values))
    (hf : head.Fits) :
    im.word (((place distance + 4 : Nat) : Int) + 0x48) = .ok head.name.bytes.length := by
  have hb : ((keyRecord head subkeyCount subkeys valueCount values).drop 0x48).take 2 =
      word head.name.bytes.length := by
    simp only [keyRecord_eq, drop_signature, drop_word, drop_dword, drop_qword,
      drop_zeros, List.drop_zero, take_word]
  exact keyField_eq h (by omega) hf.name.length hb (by omega)

theorem keyFlags_eq
    (h : im.Holds (place distance + 4) (keyRecord head subkeyCount subkeys valueCount values)) :
    im.word (((place distance + 4 : Nat) : Int) + 2) = .ok head.flags := by
  have hb : ((keyRecord head subkeyCount subkeys valueCount values).drop 2).take 2 =
      word head.flags := by
    simp only [keyRecord_eq, drop_signature, List.drop_zero, take_word]
  exact keyField_eq h (by omega) (flags_lt head) hb (by omega)

theorem keyName_eq
    (h : im.Holds (place distance + 4) (keyRecord head subkeyCount subkeys valueCount values)) :
    im.slice (((place distance + 4 : Nat) : Int) + 0x4C)
      (((place distance + 4 : Nat) : Int) + 0x4C + (head.name.bytes.length : Nat)) =
        head.name.bytes := by
  have hpart := h.part (i := 0x4C) (w := head.name.bytes.length)
    (Nat.le_of_eq (length_keyRecord ..).symm)
  rw [drop_keyRecord, List.take_length] at hpart
  exact hpart.slice (by omega) (by omega)

theorem nodeAt_eq
    (h : im.Holds (place distance + 4) (keyRecord head subkeyCount subkeys valueCount values))
    (hf : head.Fits) :
    im.nodeAt ((place distance + 4 : Nat) : Int) = .ok (nodeOf distance head) := by
  have hhandle : ((place distance + 4 : Nat) : Int) - cellHeaderSize = place distance := by
    rw [cellHeaderSize]
    omega
  simp only [Image.nodeAt, nameLength_eq h hf, keyFlags_eq h, keyName_eq h, bind, Except.bind,
    oneByte_of_flags, decodeStoredName_bytes hf.name, hhandle]
  rfl

/-- A key is read from its cell, in use or not. -/
theorem node_of_holds {stored : Int}
    (hc : im.cell (place distance : Int) = .ok ⟨place distance, stored⟩)
    (h : im.Holds (place distance + 4) (keyRecord head subkeyCount subkeys valueCount values))
    (hf : head.Fits) : im.node (place distance : Int) = .ok (nodeOf distance head) := by
  rw [Image.node, record_eq hc h two_le_length_keyRecord take_keyRecord]
  exact nodeAt_eq h hf

/-- **The node in the cell of a key is the key's.** -/
theorem node_eq (h : CellAt im distance (keyRecord head subkeyCount subkeys valueCount values))
    (hf : head.Fits) : im.node (place distance : Int) = .ok (nodeOf distance head) :=
  node_of_holds h.cell_eq h.content_holds hf

/-- The record that questions about a key's node are answered from. -/
theorem keyRecordOfHandle
    (h : CellAt im distance (keyRecord head subkeyCount subkeys valueCount values)) :
    im.recordOfHandle .node (nodeOf distance head).handle =
      .ok ((place distance + 4 : Nat) : Int) :=
  h.recordOfHandle two_le_length_keyRecord take_keyRecord

theorem nodeTimestamp_eq
    (h : CellAt im distance (keyRecord head subkeyCount subkeys valueCount values))
    (hf : head.Fits) : im.nodeTimestamp (nodeOf distance head) = .ok head.time? := by
  have hb : ((keyRecord head subkeyCount subkeys valueCount values).drop 4).take 8 =
      Bytes.ofLittleEndian 8 head.timestamp := by
    simp only [keyRecord_eq, drop_signature, drop_word, List.drop_zero, take_qword]
  have hlt : head.timestamp < 256 ^ 8 := Nat.lt_of_lt_of_eq hf.timestamp (by decide)
  have htime : im.qword (((place distance + 4 : Nat) : Int) + 4) = .ok head.timestamp :=
    keyField_eq h.content_holds (by omega) hlt hb (by omega)
  simp only [Image.nodeTimestamp, keyRecordOfHandle h, Image.timestampAt, htime, bind, Except.bind,
    pure, Except.pure, Except.map, Failing.mapError_ok, KeyHead.time?, Int.natCast_eq_zero]

/-- The length of a key's record is that of its fixed part and its name. -/
theorem nodeLength_eq
    (h : CellAt im distance (keyRecord head subkeyCount subkeys valueCount values))
    (hf : head.Fits) :
    im.nodeLength (nodeOf distance head) =
      .ok ((Image.nodeFixedSize + head.name.bytes.length : Nat) : Int) := by
  simp only [Image.nodeLength, keyRecordOfHandle h, nameLength_eq h.content_holds hf, bind,
    Except.bind, Except.map, Failing.mapError_ok]

/-- The count of a list that fits its field; all bits set would mean none. -/
theorem entryCount_eq {field : Int} {n : Nat} (hn : im.dword field = .ok n) (h : n ≠ 0xFFFFFFFF) :
    im.entryCount field = .ok n := by
  simp only [Image.entryCount, hn, Except.map, if_neg h]

theorem subkeyCount_eq
    (h : CellAt im distance (keyRecord head subkeyCount subkeys valueCount values))
    (hc : subkeyCount < 0xFFFFFFFF) :
    im.entryCount (((place distance + 4 : Nat) : Int) + 0x14) = .ok subkeyCount := by
  have hb : ((keyRecord head subkeyCount subkeys valueCount values).drop 0x14).take 4 =
      dword subkeyCount := by
    simp only [keyRecord_eq, drop_signature, drop_word, drop_dword, drop_qword,
      List.drop_zero, take_dword]
  exact entryCount_eq (keyField_eq h.content_holds (by omega) (by omega) hb (by omega)) (by omega)

theorem subkeyDistance_eq
    (h : CellAt im distance (keyRecord head subkeyCount subkeys valueCount values))
    (hd : subkeys < 2 ^ 32) :
    im.dword (((place distance + 4 : Nat) : Int) + 0x1C) = .ok subkeys := by
  have hb : ((keyRecord head subkeyCount subkeys valueCount values).drop 0x1C).take 4 =
      dword subkeys := by
    simp only [keyRecord_eq, drop_signature, drop_word, drop_dword, drop_qword,
      List.drop_zero, take_dword]
  exact keyField_eq h.content_holds (by omega) hd hb (by omega)

theorem valueCount_eq
    (h : CellAt im distance (keyRecord head subkeyCount subkeys valueCount values))
    (hc : valueCount < 0xFFFFFFFF) :
    im.entryCount (((place distance + 4 : Nat) : Int) + 0x24) = .ok valueCount := by
  have hb : ((keyRecord head subkeyCount subkeys valueCount values).drop 0x24).take 4 =
      dword valueCount := by
    simp only [keyRecord_eq, drop_signature, drop_word, drop_dword, drop_qword,
      List.drop_zero, take_dword]
  exact entryCount_eq (keyField_eq h.content_holds (by omega) (by omega) hb (by omega)) (by omega)

theorem valueDistance_eq
    (h : CellAt im distance (keyRecord head subkeyCount subkeys valueCount values))
    (hd : values < 2 ^ 32) :
    im.dword (((place distance + 4 : Nat) : Int) + 0x28) = .ok values := by
  have hb : ((keyRecord head subkeyCount subkeys valueCount values).drop 0x28).take 4 =
      dword values := by
    simp only [keyRecord_eq, drop_signature, drop_word, drop_dword, drop_qword,
      List.drop_zero, take_dword]
  exact keyField_eq h.content_holds (by omega) hd hb (by omega)

end HiveDump.Layout
