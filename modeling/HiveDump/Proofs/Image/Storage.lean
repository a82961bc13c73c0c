import HiveDump.Proofs.Image.Extent
import HiveDump.Proofs.Image.Loops

/-!
# Where payloads are stored

The length field of a value's record declares how long the payload is, and says together with what
it leads to where the payload is stored: in the record, in one cell, or in segments. A cell with too
few bytes makes the entry malformed. A segment with too few bytes does not: the bytes of the next
segment follow at once, and the payload comes out shorter than declared. So it does if it stands in
a record so close in front of the image that it would go on, or end, at the image's start.

Results:
* `payload_eq_retrieve`: a payload is read from where it is stored;
* `length_segments`: how long a payload in segments comes out;
* **`values_declared_iff`**: an entry of a list of values is malformed, or a value as long as its
  record declares, unless its payload falls short in one of these two ways.
-/

namespace HiveDump

/-- How many bytes of payload a length field declares; a record has room for four. -/
def PayloadLength.declared (l : PayloadLength) : Nat :=
  if l.isInline then min l.bytes 4 else l.bytes

/-- Where a payload is stored: in the record of its value, in a cell, or in segments that the record
in a cell names. -/
inductive Storage
  | inRecord
  | inCell (c : Cell)
  | inSegments (c : Cell)
  deriving DecidableEq, Repr

namespace Image

variable {im : Image} {record : Int} {l : PayloadLength} {place : Storage} {b : Bytes} {c : Cell}
  {v : Value}

/-! ## Reading from where a payload is stored -/

/-- Where the payload of the value record at an offset is stored. -/
def storage (im : Image) (record : Int) (l : PayloadLength) : Except RecordFault Storage := do
  if l.isInline then return .inRecord
  let c ← im.payloadCell record
  if ← im.holdsSegments c l.bytes then return .inSegments c
  return .inCell c

/-- What is read of a payload that is stored there. -/
def retrieve (im : Image) (record : Int) (l : PayloadLength) : Storage → Except Fault Bytes
  | .inRecord => .ok (im.slice (record + 8) (record + 8 + l.declared))
  | .inCell c =>
    if ((im.cellBytes c).take l.bytes).length = l.bytes then .ok ((im.cellBytes c).take l.bytes)
    else .error (.truncatedPayload record)
  | .inSegments c => (im.segmented c.content l.bytes).mapError .record

/-- **A payload is read from where it is stored.** -/
theorem payload_eq_retrieve (im : Image) (record : Int) :
    im.payload record = (im.payloadLength record).mapError .record >>= fun l =>
      (im.storage record l).mapError .record >>= im.retrieve record l := by
  unfold payload storage
  cases im.payloadLength record with
  | error fault => rfl
  | ok l =>
    by_cases hinline : l.isInline = true
    · simp only [bind, Except.bind, Failing.mapError_ok, if_pos hinline, pure, Except.pure,
        retrieve, PayloadLength.declared]
    · simp only [bind, Except.bind, Failing.mapError_ok, if_neg hinline]
      cases im.payloadCell record with
      | error fault => rfl
      | ok c =>
        cases hheld : im.holdsSegments c l.bytes with
        | error fault => simp only [Failing.mapError_ok, hheld, Failing.mapError_error]
        | ok held =>
          cases held <;> simp [hheld, pure, Except.pure, retrieve, throw, throwThe,
            MonadExceptOf.throw]

theorem storage_of_inline (h : l.isInline = true) : im.storage record l = .ok .inRecord := by
  rw [storage, if_pos h]
  rfl

theorem storage_of_not_inline (h : l.isInline = false) :
    im.storage record l = (im.payloadCell record >>= fun c =>
      (im.holdsSegments c l.bytes).map fun held => if held then .inSegments c else .inCell c) := by
  rw [storage, if_neg (Bool.eq_false_iff.mp h)]
  cases im.payloadCell record with
  | error fault => rfl
  | ok c =>
    simp only [bind, Except.bind]
    cases im.holdsSegments c l.bytes with
    | error fault => rfl
    | ok held => cases held <;> rfl

/-- What is known of a payload by where it is stored. -/
theorem of_storage (h : im.storage record l = .ok place) :
    match place with
    | .inRecord => l.isInline = true
    | .inCell c =>
      l.isInline = false ∧ im.payloadCell record = .ok c ∧ im.holdsSegments c l.bytes = .ok false
    | .inSegments c =>
      l.isInline = false ∧ im.payloadCell record = .ok c ∧
        im.holdsSegments c l.bytes = .ok true := by
  cases hinline : l.isInline with
  | true =>
    rw [storage_of_inline hinline] at h
    cases h
    rfl
  | false =>
    rw [storage_of_not_inline hinline] at h
    obtain ⟨c, hc, h⟩ := Failing.bind_eq_ok.mp h
    obtain ⟨held, hheld, rfl⟩ := Failing.map_eq_ok.mp h
    cases held with
    | true => exact ⟨rfl, hc, hheld⟩
    | false => exact ⟨rfl, hc, hheld⟩

theorem payload_eq_ok : im.payload record = .ok b ↔ ∃ l place, im.payloadLength record = .ok l ∧
    im.storage record l = .ok place ∧ im.retrieve record l place = .ok b := by
  simp only [payload_eq_retrieve, Failing.bind_eq_ok, Failing.mapError_eq_ok, ← exists_and_left]

/-! ## How long what is read comes out -/

theorem index_of_nonneg (size : Nat) {i : Int} (h : 0 ≤ i) :
    Bytes.index size i = min i.toNat size :=
  if_neg (Int.not_lt.mpr h)

theorem index_le (size : Nat) (i : Int) : Bytes.index size i ≤ size := by
  unfold Bytes.index
  split <;> omega

theorem length_slice (im : Image) (start stop : Int) :
    (im.slice start stop).length = Bytes.index im.size stop - Bytes.index im.size start := by
  have hle := index_le im.size stop
  rw [slice, between_eq, List.length_take, List.length_drop, length_toList]
  omega

theorem length_cellBytes_le (h : 0 ≤ c.content) : (im.cellBytes c).length ≤ c.stored.natAbs := by
  rw [cellBytes, length_slice, index_of_nonneg _ h, index_of_nonneg _ (by omega)]
  omega

/-- Whether one of the segments of a payload of this length, whose slots start at an offset, has
fewer bytes than it is to hold. -/
def ShortSegment (im : Image) (slot : Int) (length : Nat) : Prop :=
  ∃ i < segmentCount length, ∃ c, (im.linked (slot + 4 * i) >>= im.cell) = .ok c ∧
    (im.cellBytes c).length < min segmentSize (length - i * segmentSize)

theorem not_shortSegment_zero (slot : Int) : ¬ im.ShortSegment slot 0 := by
  rintro ⟨i, hi, -⟩
  rw [segmentCount_zero] at hi
  exact absurd hi (Nat.not_lt_zero i)

/-- The first segment is too short, or one of those behind it. -/
theorem shortSegment_iff {slot : Int} {length : Nat} (hpos : length ≠ 0)
    (hc : (im.linked slot >>= im.cell) = .ok c) :
    im.ShortSegment slot length ↔ (im.cellBytes c).length < min segmentSize length ∨
      im.ShortSegment (slot + 4) (length - segmentSize) := by
  unfold ShortSegment
  rw [segmentCount_of_ne_zero hpos]
  constructor
  · rintro ⟨_ | i, hi, c', hc', hshort⟩
    · rw [Int.natCast_zero, Int.mul_zero, Int.add_zero, hc] at hc'
      cases hc'
      rw [Nat.zero_mul, Nat.sub_zero] at hshort
      exact .inl hshort
    · refine .inr ⟨i, Nat.lt_of_succ_lt_succ hi, c', ?_, ?_⟩
      · rw [← hc']
        congr 2
        push_cast
        omega
      · rwa [Nat.succ_mul, Nat.add_comm, ← Nat.sub_sub] at hshort
  · rintro (hshort | ⟨i, hi, c', hc', hshort⟩)
    · refine ⟨0, Nat.succ_pos _, c, ?_, ?_⟩
      · rwa [Int.natCast_zero, Int.mul_zero, Int.add_zero]
      · rwa [Nat.zero_mul, Nat.sub_zero]
    · refine ⟨i + 1, Nat.succ_lt_succ hi, c', ?_, ?_⟩
      · rw [← hc']
        congr 2
        push_cast
        omega
      · rwa [Nat.succ_mul, Nat.add_comm, ← Nat.sub_sub]

/-- **A payload in segments** is as long as it is to be unless a segment is too short, and never
longer. -/
theorem length_segments (slot : Int) (length : Nat)
    (h : im.segments slot (segmentCount length) length = .ok b) :
    b.length ≤ length ∧ (b.length = length ↔ ¬ im.ShortSegment slot length) := by
  induction length using Nat.strongRecOn generalizing slot b with
  | ind length ih =>
  by_cases hpos : length = 0
  · subst hpos
    rw [segmentCount_zero] at h
    cases h
    exact ⟨Nat.le_refl 0, fun _ => not_shortSegment_zero slot, fun _ => rfl⟩
  · rw [segmentCount_of_ne_zero hpos, segments_succ] at h
    obtain ⟨c, hc, h⟩ := Failing.bind_eq_ok.mp h
    obtain ⟨rest, hrest, rfl⟩ := Failing.map_eq_ok.mp h
    have hlt : length - segmentSize < length := by
      have := segmentSize_pos
      omega
    obtain ⟨hle, heq⟩ := ih _ hlt _ hrest
    rw [shortSegment_iff hpos hc, not_or, ← heq, List.length_append, List.length_take]
    omega

/-- A payload in a record is cut off if it goes on, or ends, at the image's start: its end then no
longer counts from the image's end as its own start does. -/
theorem length_inRecord {head : Bytes × Option String × Kind}
    (hhead : im.valueHead record = .ok head) (hl : im.payloadLength record = .ok l)
    (hinline : l.isInline = true) :
    (im.slice (record + 8) (record + 8 + l.declared)).length ≤ l.declared ∧
      ((im.slice (record + 8) (record + 8 + l.declared)).length = l.declared ↔
        ¬ (record + 8 < 0 ∧ 0 ≤ record + 8 + l.declared)) := by
  obtain ⟨nameLength, -, hhead⟩ := Failing.bind_eq_ok.mp hhead
  obtain ⟨flags, hflags, -⟩ := Failing.bind_eq_ok.mp hhead
  obtain ⟨field, hfield, -⟩ := Failing.map_eq_ok.mp hl
  have hbehind := readable_of_number hflags
  have hfront := readable_of_number hfield
  have hfour : l.declared ≤ 4 := by
    rw [PayloadLength.declared, if_pos hinline]
    exact Nat.min_le_right _ _
  unfold Readable at hbehind hfront
  rw [length_slice]
  unfold Bytes.index
  split <;> split <;> omega

/-- Whether a payload that is stored there comes out shorter than its record declares. -/
def FallsShort (im : Image) (record : Int) (l : PayloadLength) : Storage → Prop
  | .inRecord => record + 8 < 0 ∧ 0 ≤ record + 8 + l.declared
  | .inCell _ => False
  | .inSegments c => ∃ slots, (im.linked (c.content + 4) >>= im.cell) = .ok slots ∧
      im.ShortSegment slots.content l.bytes

theorem segmented_eq_bind (im : Image) (record : Int) (length : Nat) :
    im.segmented record length = (im.linked (record + 4) >>= im.cell >>= fun c =>
      im.segments c.content (segmentCount length) length) := by
  rw [segmented]
  cases im.linked (record + 4) with
  | error fault => rfl
  | ok cell => rfl

/-- **What is read of a payload** is as long as declared unless it falls short. -/
theorem length_retrieve {head : Bytes × Option String × Kind}
    (hhead : im.valueHead record = .ok head) (hl : im.payloadLength record = .ok l)
    (hplace : im.storage record l = .ok place) (hb : im.retrieve record l place = .ok b) :
    b.length ≤ l.declared ∧ (b.length = l.declared ↔ ¬ im.FallsShort record l place) := by
  have hknown := of_storage hplace
  cases place with
  | inRecord =>
    cases hb
    exact length_inRecord hhead hl hknown
  | inCell c =>
    rw [PayloadLength.declared, if_neg (Bool.eq_false_iff.mp hknown.1)]
    rw [retrieve] at hb
    split at hb
    · next hfull =>
      cases hb
      exact ⟨Nat.le_of_eq hfull, fun _ => id, fun _ => hfull⟩
    · cases hb
  | inSegments c =>
    rw [PayloadLength.declared, if_neg (Bool.eq_false_iff.mp hknown.1)]
    rw [retrieve, segmented_eq_bind] at hb
    obtain ⟨slots, hslots, hb⟩ := Failing.bind_eq_ok.mp (Failing.mapError_eq_ok.mp hb)
    obtain ⟨hle, heq⟩ := length_segments _ _ hb
    have hshort : im.FallsShort record l (.inSegments c) ↔
        im.ShortSegment slots.content l.bytes := by
      constructor
      · rintro ⟨slots', hslots', h⟩
        rw [hslots] at hslots'
        cases hslots'
        exact h
      · exact fun h => ⟨slots, hslots, h⟩
    exact ⟨hle, by rw [hshort, heq]⟩

/-- How long the record of a value declares its payload to be, and where that is stored. -/
structure Stores (im : Image) (v : Value) (l : PayloadLength) (place : Storage) : Prop where
  field : im.payloadLength (v.handle + cellHeaderSize) = .ok l
  storage : im.storage (v.handle + cellHeaderSize) l = .ok place
  raw : im.retrieve (v.handle + cellHeaderSize) l place = .ok v.raw

/-- The payload of a value that was read is stored somewhere. -/
theorem exists_stores {cell : Int} (h : im.value cell = .ok v) :
    ∃ l place, im.Stores v l place := by
  have hread := readAt_of_value h
  obtain ⟨l, place, hl, hplace, hraw⟩ := payload_eq_ok.mp hread.payload
  rw [← hread.handle] at hl hplace hraw
  exact ⟨l, place, hl, hplace, hraw⟩

/-- It is stored in one place, at one length. -/
theorem Stores.unique {l' : PayloadLength} {place' : Storage} (hs : im.Stores v l place)
    (hs' : im.Stores v l' place') : l = l' ∧ place = place' := by
  obtain rfl : l = l' := Except.ok.inj (hs.field.symm.trans hs'.field)
  exact ⟨rfl, Except.ok.inj (hs.storage.symm.trans hs'.storage)⟩

theorem Stores.length_raw {cell : Int} (hs : im.Stores v l place)
    (h : im.value cell = .ok v) :
    v.raw.length ≤ l.declared ∧
      (v.raw.length = l.declared ↔ ¬ im.FallsShort (v.handle + cellHeaderSize) l place) := by
  have hread := readAt_of_value h
  rw [← hread.handle] at hread
  exact length_retrieve hread.head hs.field hs.storage hs.raw

end Image

namespace HiveFile

/-! ## Lists of values -/

/-- **An entry of a list of values is malformed, or a value as long as its record declares**, and
a value is shorter exactly if its payload falls short where it is stored. -/
theorem values_declared_iff (h : HiveFile) {n : Node} {es : List (Entry Value)}
    (hes : h.source.values n = .ok es) {e : Entry Value} (he : e ∈ es) :
    (∀ fault, e.outcome = .error fault → fault.isMalformed = true) ∧
      ∀ v, e.outcome = .ok v → v.length = v.raw.length ∧
        ∃ l place, h.image.Stores v l place ∧ v.raw.length ≤ l.declared ∧
          (v.raw.length = l.declared ↔
            ¬ h.image.FallsShort (v.handle + cellHeaderSize) l place) := by
  obtain ⟨record, hrecord, -⟩ := Failing.bind_eq_ok.mp hes
  refine ⟨fun fault hfault => ?_, fun v hv => ?_⟩
  · have hmalformed : Walk.MalformedOnly (h.source.values n) :=
      (malformedOnly_of_record hrecord).2
    rw [hes] at hmalformed
    exact hmalformed e he fault hfault
  · have hgood : v ∈ Listing.good (h.source.values n) := Listing.mem_good.mpr ⟨es, hes, e, he, hv⟩
    obtain ⟨cell, hcell⟩ := h.value_of_mem_values hgood
    obtain ⟨l, place, hs⟩ := Image.exists_stores hcell
    exact ⟨(Image.readAt_of_value hcell).length, l, place, hs, hs.length_raw hcell⟩

/-! ## A segment that is too short -/

section Short

open Layout

/-- Segments whose slots name cells can be read, whatever length they are read for. -/
theorem exists_segments {im : Image} (hb : Binned im) {cells : List Nat} {contents : List Bytes}
    (hcells : List.Forall₂ (CellAt im) cells contents) {slot : Nat}
    (hslots : im.Holds slot (cells.flatMap dword)) (length : Nat) :
    ∃ b, im.segments slot cells.length length = .ok b := by
  induction hcells generalizing slot length with
  | nil => exact ⟨[], rfl⟩
  | cons hcell _ ih =>
    rw [List.flatMap_cons] at hslots
    have hdword := hslots.left.number
    rw [length_dword, littleEndian_dword hcell.distance_lt] at hdword
    have hright := hslots.right
    rw [length_dword] at hright
    obtain ⟨rest, hrest⟩ := ih hright (length - segmentSize)
    rw [Int.natCast_add] at hrest
    simp only [List.length_cons, Image.segments_succ, hb.linked hdword, bind,
      Except.bind, hcell.cell_eq]
    exact ⟨_, Failing.map_eq_ok.mpr ⟨rest, hrest, rfl⟩⟩

/-- A value whose record declares a payload of one byte more than one cell holds. -/
def shortValue : ValueDraft :=
  ⟨.oneByte "n", 3, []⟩

/-- The root with this value. -/
def shortHead : KeyHead :=
  ⟨.oneByte "root", 0, true⟩

/-- Cells for a key with this value: two segments, of which the first is to be full and is not,
their slots, the record that names these, the value, the slots of values, and the key. -/
def shortCells : List Bytes :=
  [zeros 8, zeros 1, [32, 48].flatMap dword, segmentsRecord 2 56, valueRecord shortValue 16345 72,
    [88].flatMap dword, keyRecord shortHead 0 noCell 1 120]

/-- The image with these cells. -/
def shortImage : Image :=
  imageOf 0 128 (shortCells.flatMap cellBytes)

theorem lengths_shortCells : shortCells.map List.length = [8, 1, 8, 8, 21, 4, 80] := by
  simp only [shortCells, List.map_cons, List.map_nil, length_zeros, length_flatMap_dword,
    length_segmentsRecord, length_valueRecord, length_keyRecord]
  rfl

theorem cellAt_shortImage {i : Nat} (hi : i < 7) :
    CellAt shortImage (binHeaderSize + room ([8, 1, 8, 8, 21, 4, 80].take i)) shortCells[i] := by
  have hbin : ∀ i < 7, binHeaderSize + room ([8, 1, 8, 8, 21, 4, 80].take i) < 2 ^ 32 := by decide
  exact cellAt_imageOf 0 128 lengths_shortCells hi (hbin i hi) (by decide)

theorem headed_shortImage : Headed shortImage 128 :=
  headed_imageOf 0 _ (by decide)

/-- The hive in this image. -/
def shortHive : HiveFile :=
  opened "hive" shortImage false 128 shortHead

theorem open_shortImage :
    ∃ trace, ofImage "hive" shortImage false = (.ok shortHive, trace) :=
  ofImage_eq headed_shortImage (by decide) (cellAt_shortImage (i := 6) (by decide)) "hive" false

/-- The slots of the segments follow each other in their cell. -/
theorem slots_shortImage : shortImage.Holds (place 56 + 4) ([32, 48].flatMap dword) :=
  (cellAt_shortImage (i := 2) (by decide)).content_holds

/-- The first segment has the bytes of its cell, which are not enough. -/
theorem shortSegment_shortImage : shortImage.ShortSegment (place 56 + 4 : Nat) 16345 := by
  have hcell : CellAt shortImage 32 (zeros 8) := cellAt_shortImage (i := 0) (by decide)
  have hdword := slots_shortImage.left.number
  rw [length_dword, littleEndian_dword hcell.distance_lt] at hdword
  refine ⟨0, by decide, _, Failing.bind_eq_ok.mpr ⟨place 32, ?_, hcell.cell_eq⟩, ?_⟩
  · rw [Int.natCast_zero, Int.mul_zero, Int.add_zero]
    exact headed_shortImage.binned.linked hdword
  · refine Nat.lt_of_le_of_lt (Image.length_cellBytes_le ?_) (by decide)
    rw [content_eq]
    exact Int.natCast_nonneg _

theorem cellAt_shortValue : CellAt shortImage 88 (valueRecord shortValue 16345 72) :=
  cellAt_shortImage (i := 4) (by decide)

/-- The length field of the value, and the cell of the record that names the segments. -/
theorem storage_shortImage :
    shortImage.payloadLength (place 88 + 4 : Nat) = .ok ⟨16345⟩ ∧
      shortImage.storage (place 88 + 4 : Nat) ⟨16345⟩ =
        .ok (.inSegments ⟨place 72, -(cellSize (segmentsRecord 2 56).length : Int)⟩) := by
  have hrecord : CellAt shortImage 72 (segmentsRecord 2 56) :=
    cellAt_shortImage (i := 3) (by decide)
  have hcell := payloadCell_eq headed_shortImage.binned cellAt_shortValue.content_holds hrecord
  have hheld := holdsSegments_eq (b := zeros 16345) (by rw [length_zeros]; decide) hrecord
  rw [length_zeros] at hheld
  refine ⟨payloadLength_eq cellAt_shortValue.content_holds (by decide), ?_⟩
  rw [Image.storage_of_not_inline (by decide)]
  exact Failing.bind_eq_ok.mpr ⟨_, hcell, Failing.map_eq_ok.mpr ⟨true, hheld, rfl⟩⟩

/-- The record leads to the slots. -/
theorem slotsCell_shortImage : ∃ slots : Cell,
    (shortImage.linked ((place 72 + 4 : Nat) + 4) >>= shortImage.cell) = .ok slots ∧
      slots.content = (place 56 + 4 : Nat) := by
  have hrecord : CellAt shortImage 72 (segmentsRecord 2 56) :=
    cellAt_shortImage (i := 3) (by decide)
  have hslots : CellAt shortImage 56 ([32, 48].flatMap dword) :=
    cellAt_shortImage (i := 2) (by decide)
  have hdword : shortImage.dword ((place 72 + 4 : Nat) + 4) = .ok 56 := by
    have hn := hrecord.content_holds.right.number
    rwa [length_dword, littleEndian_dword hslots.distance_lt] at hn
  exact ⟨_, Failing.bind_eq_ok.mpr ⟨place 56, headed_shortImage.binned.linked hdword,
    hslots.cell_eq⟩, content_eq _⟩

/-- The value can be read. -/
theorem exists_value_shortImage : ∃ v, shortImage.value (place 88 : Int) = .ok v := by
  have hcells : List.Forall₂ (CellAt shortImage) [32, 48] [zeros 8, zeros 1] :=
    .cons (cellAt_shortImage (i := 0) (by decide))
      (.cons (cellAt_shortImage (i := 1) (by decide)) .nil)
  obtain ⟨raw, hraw⟩ := exists_segments headed_shortImage.binned hcells slots_shortImage 16345
  obtain ⟨slots, hslots, hcontent⟩ := slotsCell_shortImage
  obtain ⟨hlength, hstorage⟩ := storage_shortImage
  have hpayload : shortImage.payload (place 88 + 4 : Nat) = .ok raw := by
    refine Image.payload_eq_ok.mpr ⟨_, _, hlength, hstorage, ?_⟩
    rw [Image.retrieve, content_eq, Image.segmented_eq_bind]
    refine Failing.mapError_eq_ok.mpr (Failing.bind_eq_ok.mpr ⟨slots, hslots, ?_⟩)
    rw [hcontent]
    exact hraw
  have hrecord := cellAt_shortValue.record two_le_length_valueRecord take_valueRecord
  have hfits : shortValue.Fits :=
    ⟨by decide, by decide, by decide, by decide, by decide, by decide⟩
  have hhead := valueHead_eq hfits cellAt_shortValue.content_holds
  exact ⟨_, Failing.bind_eq_ok.mpr ⟨_, Failing.mapError_eq_ok.mpr hrecord,
    Failing.bind_eq_ok.mpr ⟨_, Failing.mapError_eq_ok.mpr hhead,
      Failing.bind_eq_ok.mpr ⟨raw, hpayload, rfl⟩⟩⟩⟩

/-- The root's list of values has this one. -/
theorem values_shortImage :
    shortHive.source.values shortHive.root =
      .ok [entryAt .values shortImage.value (valueTrace "hive" false) (place 88)] := by
  have hslots : SlotsAt shortImage 120 [88] := .inr (cellAt_shortImage (i := 5) (by decide))
  exact values_eq "hive" false 128 shortHead headed_shortImage.binned hslots (by decide)
    (cellAt_shortImage (i := 6) (by decide))

/-- The value of this image is shorter than its record declares. -/
theorem length_shortImage : ∃ h trace v l, ofImage "hive" shortImage false = (.ok h, trace) ∧
    v ∈ Listing.good (h.source.values h.source.root) ∧
    h.image.payloadLength (v.handle + cellHeaderSize) = .ok l ∧ l.declared = 16345 ∧
    v.length < l.declared := by
  obtain ⟨trace, ho⟩ := open_shortImage
  obtain ⟨v, hv⟩ := exists_value_shortImage
  have hread := Image.readAt_of_value hv
  obtain ⟨l, place, hs⟩ := Image.exists_stores hv
  obtain ⟨slots, hslots, hcontent⟩ := slotsCell_shortImage
  obtain ⟨hlength, hstorage⟩ := storage_shortImage
  have hrecord : v.handle + cellHeaderSize = (Layout.place 88 + 4 : Nat) := by
    rw [hread.handle]
    rfl
  obtain rfl : (⟨16345⟩ : PayloadLength) = l := by
    have hfield := hs.field
    rw [hrecord, hlength] at hfield
    exact Except.ok.inj hfield
  have hshort : shortImage.FallsShort (v.handle + cellHeaderSize) ⟨16345⟩ place := by
    have hplace := hs.storage
    rw [hrecord, hstorage] at hplace
    cases hplace
    refine ⟨slots, ?_, ?_⟩
    · rw [content_eq]
      exact hslots
    · rw [hcontent]
      exact shortSegment_shortImage
  obtain ⟨hle, heq⟩ := hs.length_raw hv
  refine ⟨shortHive, trace, v, ⟨16345⟩, ho, ?_, hs.field, rfl, ?_⟩
  · exact Listing.mem_good.mpr
      ⟨_, values_shortImage, _, List.mem_singleton_self _, outcome_entryAt.mpr hv⟩
  · rw [hread.length]
    exact Int.ofNat_lt.mpr (Nat.lt_of_le_of_ne hle fun h => heq.mp h hshort)

theorem values_declared_iff_shortImage : ∃ es e v,
    shortHive.source.values shortHive.root = .ok es ∧ e ∈ es ∧ e.outcome = .ok v ∧
      v.length = v.raw.length ∧
      ∃ l place, shortHive.image.Stores v l place ∧ v.raw.length ≤ l.declared ∧
        (v.raw.length = l.declared ↔
          ¬ shortHive.image.FallsShort (v.handle + cellHeaderSize) l place) := by
  obtain ⟨v, hv⟩ := exists_value_shortImage
  have hgood : (entryAt .values shortImage.value (valueTrace "hive" false) (place 88)).outcome =
      .ok v := outcome_entryAt.mpr hv
  exact ⟨_, _, v, values_shortImage, List.mem_singleton_self _, hgood,
    (values_declared_iff shortHive values_shortImage (List.mem_singleton_self _)).2 v hgood⟩

end Short

end HiveFile

end HiveDump
