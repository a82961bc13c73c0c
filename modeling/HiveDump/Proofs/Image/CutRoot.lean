import HiveDump.Proofs.Image.Opening

/-!
# Images that end inside the root's record

Opening reads the header, the first bin, the cell of the root and the letters of its record, and
then the name of the root. What goes wrong up to the letters makes the image unopenable. The name
is read behind that step: an image that ends between the letters and the length of the name is
refused with the fault of the read itself.

Results:
* `rootRecord_eq_ok`: which images have a root's record, and where;
* **`opening_iff`**: an image opens exactly if it goes on behind the length of the root's name, and
  it leaves opening with another fault than `unopenable` exactly if it ends in front of that;
* `opening_cutImage`: such an image.
-/

namespace HiveDump

namespace Image

variable {im : Image} {record : Int}

theorem exists_word {offset : Int} (h : 0 ≤ offset) (hfits : offset + 2 ≤ im.size) :
    ∃ n, im.word offset = .ok n := by
  obtain ⟨b, hb⟩ := (im.read_eq_ok_iff offset 2).mpr (.inl ⟨h, hfits⟩)
  exact ⟨_, number_eq_ok.mpr ⟨b, hb, rfl⟩⟩

theorem word_of_lt {offset : Int} (h : 0 ≤ offset) (hends : (im.size : Int) < offset + 2) :
    im.word offset = .error (.pastEnd offset 2 im.size) := by
  have hlocate : im.locate offset 2 = .error (.pastEnd offset 2 im.size) := by
    rw [locate, if_pos h, if_neg (by omega)]
  rw [word, number, read, hlocate]
  rfl

/-- Where the length of the name of a node's record ends. -/
def nameLengthEnd (record : Int) : Int :=
  record + 0x4A

/-- A record is read as a node if the image goes on behind the length of its name: the flags stand
in front of it, and of the name only what the image has is taken. -/
theorem exists_nodeAt (h : 0 ≤ record) (hfits : nameLengthEnd record ≤ im.size) :
    ∃ n, im.nodeAt record = .ok n := by
  unfold nameLengthEnd at hfits
  obtain ⟨nameLength, hn⟩ : ∃ n, im.word (record + 0x48) = .ok n :=
    exists_word (by omega) (by omega)
  obtain ⟨flags, hf⟩ : ∃ n, im.word (record + 2) = .ok n := exists_word (by omega) (by omega)
  exact ⟨_, Failing.bind_eq_ok.mpr ⟨nameLength, hn, Failing.bind_eq_ok.mpr ⟨flags, hf, rfl⟩⟩⟩

theorem nodeAt_of_lt (h : 0 ≤ record) (hends : (im.size : Int) < nameLengthEnd record) :
    im.nodeAt record = .error (.pastEnd (record + 0x48) 2 im.size) := by
  unfold nameLengthEnd at hends
  refine Failing.bind_eq_error.mpr (.inl (word_of_lt (by omega) (by omega)))

theorem checkBin_eq_ok {offset : Int} :
    im.checkBin offset = .ok () ↔
      im.dword offset = .ok binSignature ∧ ∃ size, im.dword (offset + 8) = .ok size := by
  unfold checkBin
  cases im.dword offset with
  | error _ => simp [bind, Except.bind]
  | ok letters =>
    by_cases hl : letters = binSignature
    · cases im.dword (offset + 8) <;>
        simp [hl, bind, Except.bind, discard, Functor.discard, Functor.mapConst, Except.map]
    · simp [hl, bind, Except.bind, throw, throwThe, MonadExceptOf.throw]

theorem checkRecord_eq_ok {kind : RecordKind} :
    im.checkRecord kind record = .ok () ↔ im.read record 2 = .ok kind.signature := by
  unfold checkRecord
  cases im.read record 2 with
  | error _ => simp [bind, Except.bind]
  | ok letters =>
    by_cases hl : letters = kind.signature
    · simp [hl, bind, Except.bind, pure, Except.pure]
    · simp [hl, bind, Except.bind, throw, throwThe, MonadExceptOf.throw]

theorem record_eq_ok {kind : RecordKind} {cell : Int} :
    im.record kind cell = .ok record ↔
      (∃ stored, im.dword cell = .ok stored) ∧ im.read (cell + 4) 2 = .ok kind.signature ∧
        record = cell + 4 := by
  simp only [Image.record, Failing.bind_eq_ok, cell_eq_ok]
  constructor
  · rintro ⟨_, ⟨stored, hs, rfl⟩, _, hk, hr⟩
    cases hr
    exact ⟨⟨stored, hs⟩, checkRecord_eq_ok.mp hk, rfl⟩
  · rintro ⟨⟨stored, hs⟩, hk, rfl⟩
    exact ⟨_, ⟨stored, hs, rfl⟩, (), checkRecord_eq_ok.mpr hk, rfl⟩

end Image

namespace HiveFile

variable {im : Image} {record : Int}

/-- Whether an image has a header, a first bin, and the letters of the root's record at an offset
that the header leads to. -/
structure RootAt (im : Image) (record : Int) : Prop where
  header : im.dword 0 = .ok headerSignature
  bin : im.dword Image.binStart = .ok Image.binSignature
  binSize : ∃ size, im.dword (Image.binStart + 8) = .ok size
  distance : ∃ distance : Nat, im.dword 0x24 = .ok distance ∧
    record = Image.binStart + distance + 4
  cell : ∃ stored, im.dword (record - 4) = .ok stored
  letters : im.read record 2 = .ok RecordKind.node.signature

theorem RootAt.nonneg (h : RootAt im record) : 0 ≤ record := by
  obtain ⟨distance, -, rfl⟩ := h.distance
  unfold Image.binStart
  omega

theorem rootRecord_eq_ok : rootRecord im = .ok record ↔ RootAt im record := by
  have hheader : rootRecord im = .ok record ↔ im.dword 0 = .ok headerSignature ∧
      im.checkBin Image.binStart = .ok () ∧ ∃ distance : Nat, im.dword 0x24 = .ok distance ∧
        im.record .node (Image.binStart + distance) = .ok record := by
    unfold rootRecord
    cases im.dword 0 with
    | error _ => simp [bind, Except.bind]
    | ok letters =>
      by_cases hl : letters = headerSignature
      · simp only [bind, Except.bind, hl, ne_eq, not_true_eq_false, if_false, true_and]
        cases im.checkBin Image.binStart with
        | error _ => simp
        | ok _ => cases im.dword 0x24 <;> simp
      · simp [hl, bind, Except.bind, throw, throwThe, MonadExceptOf.throw]
  rw [hheader, Image.checkBin_eq_ok]
  simp only [Image.record_eq_ok]
  constructor
  · rintro ⟨hh, ⟨hb, hs⟩, distance, hd, hc, hl, rfl⟩
    exact ⟨hh, hb, hs, ⟨distance, hd, rfl⟩, by rwa [Int.add_sub_cancel], hl⟩
  · rintro ⟨hh, hb, hs, ⟨distance, hd, rfl⟩, hc, hl⟩
    exact ⟨hh, ⟨hb, hs⟩, distance, hd, by rwa [Int.add_sub_cancel] at hc, hl, rfl⟩

variable (path : String) (tracing : Bool)

theorem ofImage_of_le (h : RootAt im record) (hfits : Image.nameLengthEnd record ≤ im.size) :
    ∃ hive, (ofImage path im tracing).1 = .ok hive := by
  obtain ⟨root, hn⟩ := Image.exists_nodeAt h.nonneg hfits
  simp only [ofImage, rootRecord_eq_ok.mpr h, hn]
  exact ⟨_, rfl⟩

theorem ofImage_of_lt (h : RootAt im record)
    (hends : (im.size : Int) < Image.nameLengthEnd record) :
    (ofImage path im tracing).1 = .error (.record (.pastEnd (record + 0x48) 2 im.size)) := by
  simp only [ofImage, rootRecord_eq_ok.mpr h, Image.nodeAt_of_lt h.nonneg hends]

theorem ofImage_of_not (h : ∀ record, ¬ RootAt im record) :
    ∃ reason, (ofImage path im tracing).1 = .error (.unopenable path (.notAHive reason)) := by
  cases hr : rootRecord im with
  | error reason => exact ⟨reason, by simp only [ofImage, hr]⟩
  | ok record => exact absurd (rootRecord_eq_ok.mp hr) (h record)

/-- The three ends of opening. -/
theorem ofImage_cases (im : Image) :
    (∃ record, RootAt im record ∧ Image.nameLengthEnd record ≤ im.size ∧
        ∃ hive, (ofImage path im tracing).1 = .ok hive) ∨
      (∃ record, RootAt im record ∧ (im.size : Int) < Image.nameLengthEnd record ∧
        (ofImage path im tracing).1 = .error (.record (.pastEnd (record + 0x48) 2 im.size))) ∨
      ((∀ record, ¬ RootAt im record) ∧
        ∃ reason, (ofImage path im tracing).1 = .error (.unopenable path (.notAHive reason))) := by
  by_cases hroot : ∃ record, RootAt im record
  · obtain ⟨record, h⟩ := hroot
    rcases Int.lt_or_le im.size (Image.nameLengthEnd record) with hl | hl
    · exact .inr (.inl ⟨record, h, hl, ofImage_of_lt path tracing h hl⟩)
    · exact .inl ⟨record, h, hl, ofImage_of_le path tracing h hl⟩
  · have hnone : ∀ record, ¬ RootAt im record := fun record h => hroot ⟨record, h⟩
    exact .inr (.inr ⟨hnone, ofImage_of_not path tracing hnone⟩)

/-- **Opening an image gives a hive, or says that the image is none, unless the image ends inside
the root's record.** -/
theorem opening_iff (path : String) (im : Image) (tracing : Bool) :
    ((∃ hive, (ofImage path im tracing).1 = .ok hive) ↔
      ∃ record, RootAt im record ∧ Image.nameLengthEnd record ≤ im.size) ∧
    ∀ fault, ((ofImage path im tracing).1 = .error fault ∧ fault.kind ≠ .opening) ↔
      ∃ record, RootAt im record ∧ (im.size : Int) < Image.nameLengthEnd record ∧
        fault = .record (.pastEnd (record + 0x48) 2 im.size) := by
  constructor
  · constructor
    · rintro ⟨hive, hok⟩
      rcases ofImage_cases path tracing im with
        ⟨record, h, hfits, -⟩ | ⟨_, _, _, herr⟩ | ⟨_, _, herr⟩
      · exact ⟨record, h, hfits⟩
      · rw [hok] at herr
        cases herr
      · rw [hok] at herr
        cases herr
    · rintro ⟨record, h, hfits⟩
      exact ofImage_of_le path tracing h hfits
  · intro fault
    constructor
    · rintro ⟨herr, hkind⟩
      rcases ofImage_cases path tracing im with
        ⟨_, _, _, _, hok⟩ | ⟨record, h, hends, herr'⟩ | ⟨_, _, herr'⟩
      · rw [herr] at hok
        cases hok
      · rw [herr] at herr'
        cases herr'
        exact ⟨record, h, hends, rfl⟩
      · rw [herr] at herr'
        cases herr'
        exact absurd rfl hkind
    · rintro ⟨record, h, hends, rfl⟩
      exact ⟨ofImage_of_lt path tracing h hends, nofun⟩

/-! ## An image that is cut off -/

section Cut

open Layout

/-- What is left of the root's cell: its size, the letters and the flags. -/
def cutRoot : Bytes :=
  dword (0x100000000 - 96) ++ (RecordKind.node.signature ++ word 0x2C)

/-- An image that ends behind the flags of the root. -/
def cutImage : Image :=
  .ofList (header 0 32 0x1000 ++ binHeader 0x1000 ++ cutRoot)

theorem toList_cutImage :
    cutImage.toList = header 0 32 0x1000 ++ binHeader 0x1000 ++ cutRoot :=
  Image.toList_ofList _

theorem headed_cutImage : Headed cutImage 32 := by
  refine ⟨⟨0x1000, ?_⟩, ⟨0, 0x1000, ?_⟩, by decide⟩
  · have hh := Image.holds_append toList_cutImage
    rwa [length_header] at hh
  · have hlist := toList_cutImage
    rw [List.append_assoc] at hlist
    exact Image.holds_append (a := []) hlist

theorem holds_cutRoot : cutImage.Holds 0x1020 cutRoot := by
  have hlist := toList_cutImage
  rw [← List.append_nil (_ ++ cutRoot)] at hlist
  have hh := Image.holds_append hlist
  rwa [List.length_append, length_header, length_binHeader] at hh

theorem rootAt_cutImage : RootAt cutImage 0x1024 := by
  have hh := holds_cutRoot
  rw [cutRoot] at hh
  obtain ⟨hbin, hsize⟩ := Image.checkBin_eq_ok.mp headed_cutImage.binned.checkBin
  exact ⟨headed_cutImage.letters_eq, hbin, hsize, ⟨32, headed_cutImage.distance_eq, rfl⟩,
    ⟨_, hh.left.number⟩, hh.right.left.read⟩

/-- This image is no hive, and opening does not say so. -/
theorem opening_cutImage :
    ∃ fault, (ofImage "hive.dat" cutImage false).1 = .error fault ∧ fault.kind = .shortRead := by
  refine ⟨_, ofImage_of_lt "hive.dat" false rootAt_cutImage ?_, rfl⟩
  have hsize : cutImage.size = 0x1028 := by
    rw [cutImage, Image.size_ofList, List.length_append, List.length_append, length_header]
    rfl
  rw [hsize]
  decide

end Cut

end HiveFile

end HiveDump
