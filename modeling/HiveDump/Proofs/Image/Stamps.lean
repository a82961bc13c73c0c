import HiveDump.Proofs.Image.FreeCells
import HiveDump.Proofs.Image.Values

/-!
# Time stamps across the start of an image

An offset in front of an image counts from its end, and no number can be read that starts in front
of the image and ends in it. What was read of a node when it was found leaves one such number in its
record: the time stamp, if the node's cell starts between 16 and 8 bytes in front of the image. Then
the question for the time stamp ends a report, for its fault is none that is survived. Every other
question about a node is answered, or its failure is survived.

Results:
* **`nodeTimestamp_of_straddles`**, **`nodeTimestamp_eq_error`**: the question for a time stamp;
* `survives_nodeRuns`: the question for the place of a node;
* `exists_lastModified`: the time stamp of an opened hive.
-/

namespace HiveDump

namespace Image

variable {im : Image} {n : Node}

/-- Whether an allocated cell lies so in front of the image that the time stamp of a node in it
would lie on both sides of the image's start. -/
def Straddles (im : Image) (handle : Int) : Prop :=
  -16 < handle ∧ handle < -8 ∧ ¬im.FreeAt handle

/-! ## Reading numbers -/

theorem number_of_readable {offset : Int} {width : Nat} (h : im.Readable offset width) :
    ∃ k, im.number offset width = .ok k := by
  obtain ⟨b, hb⟩ := (im.read_eq_ok_iff offset width).mpr h
  exact ⟨_, number_eq_ok.mpr ⟨b, hb, rfl⟩⟩

theorem number_acrossStart {offset : Int} {width : Nat} (hlow : offset < 0)
    (hhigh : 0 < offset + width) : im.number offset width = .error (.acrossStart offset width) := by
  rw [number, read, locate, if_neg (by omega), if_pos hhigh]
  rfl

/-! ## The record of a node -/

/-- What could be read of a node's cell and record when the node was found. -/
structure FoundAt (im : Image) (handle : Int) : Prop where
  size : im.Readable handle 4
  nameLength : ∃ length, im.word (handle + cellHeaderSize + 0x48) = .ok length

theorem foundAt_of_node (h : im.node n.handle = .ok n) : im.FoundAt n.handle := by
  obtain ⟨c, hc, -, hn⟩ := node_eq_ok.mp h
  obtain ⟨stored, hs, rfl⟩ := cell_eq_ok.mp hc
  obtain ⟨length, hlength, -⟩ := Failing.bind_eq_ok.mp hn
  exact ⟨readable_of_number hs, length, hlength⟩

/-- The time stamp of a node can be read, or lies on both sides of the image's start. -/
theorem FoundAt.stamp (h : im.FoundAt n.handle) :
    im.Readable (n.handle + 8) 8 ∨ -16 < n.handle ∧ n.handle < -8 := by
  obtain ⟨hsize, length, hlength⟩ := h
  have hname := readable_of_number hlength
  unfold Readable at hsize hname ⊢
  unfold cellHeaderSize at hname
  omega

/-- A node is told by its letters, unless its cell is free. -/
theorem recordOfHandle_of_found (h : im.node n.handle = .ok n) (hf : ¬im.FreeAt n.handle) :
    im.recordOfHandle .node n.handle = .ok (n.handle + cellHeaderSize) := by
  obtain ⟨record, hrecord⟩ := recordOfHandle_of_node h hf
  rcases recordOfHandle_cases im .node n.handle with hok | ⟨reason, herror⟩
  · exact hok
  · rw [hrecord] at herror
    cases herror

/-! ## Questions about a node -/

theorem stamp_offset (handle : Int) : handle + cellHeaderSize + 4 = handle + 8 := by
  unfold cellHeaderSize
  omega

/-- **A time stamp across the start of the image** cannot be read. -/
theorem nodeTimestamp_of_straddles (h : im.node n.handle = .ok n) (hs : im.Straddles n.handle) :
    im.nodeTimestamp n = .error (.record (.acrossStart (n.handle + 8) 8)) := by
  obtain ⟨hlow, hhigh, hf⟩ := hs
  have hstamp : im.qword (n.handle + 8) = .error (.acrossStart (n.handle + 8) 8) :=
    number_acrossStart (by omega) (by omega)
  unfold nodeTimestamp timestampAt
  simp only [recordOfHandle_of_found h hf, bind, Except.bind, stamp_offset, hstamp]
  rfl

/-- A node about which the question for a time stamp fails lies in a free cell, or its time stamp
lies across the start of the image. -/
theorem nodeTimestamp_eq_error {fault : Fault} (h : im.node n.handle = .ok n)
    (hfault : im.nodeTimestamp n = .error fault) :
    fault = .noRecord .node n.handle none ∨ im.Straddles n.handle := by
  by_cases hf : im.FreeAt n.handle
  · unfold nodeTimestamp at hfault
    rw [recordOfHandle_of_free .node hf] at hfault
    cases hfault
    exact .inl rfl
  · rcases (foundAt_of_node h).stamp with hread | ⟨hlow, hhigh⟩
    · obtain ⟨k, hk⟩ := number_of_readable hread
      have hstamp : im.qword (n.handle + 8) = .ok k := hk
      unfold nodeTimestamp timestampAt at hfault
      simp only [recordOfHandle_of_found h hf, bind, Except.bind, stamp_offset, hstamp] at hfault
      cases hfault
    · exact .inr ⟨hlow, hhigh, hf⟩

/-- The length of a node's record is told, unless its cell is free. -/
theorem nodeLength_eq_error {fault : Fault} (h : im.node n.handle = .ok n)
    (hfault : im.nodeLength n = .error fault) : fault = .noRecord .node n.handle none := by
  unfold nodeLength at hfault
  by_cases hf : im.FreeAt n.handle
  · rw [recordOfHandle_of_free .node hf] at hfault
    cases hfault
    rfl
  · obtain ⟨length, hlength⟩ := (foundAt_of_node h).nameLength
    simp only [recordOfHandle_of_found h hf, bind, Except.bind, hlength] at hfault
    cases hfault

end Image

namespace HiveFile

open Report

variable {path : String} {im : Image} {tracing : Bool} {h : HiveFile} {trace : List LogLine}
  {n : Node}

/-- The question for the place of a node is survived. -/
theorem survives_nodeRuns (hn : h.image.node n.handle = .ok n) :
    Survives (nodeRuns h.source n) := by
  intro fault hfault
  unfold nodeRuns at hfault
  cases hlength : h.source.nodeLength n with
  | ok length =>
    rw [hlength] at hfault
    cases hfault
  | error reason =>
    rw [hlength] at hfault
    cases hfault
    rw [Image.nodeLength_eq_error hn hlength]
    rfl

/-- An image that was opened is long enough for the time stamp in its header. -/
theorem exists_lastModified (ho : ofImage path im tracing = (.ok h, trace)) :
    ∃ ticks, h.source.lastModified = .ok ticks := by
  obtain rfl := image_of_open ho
  have hbin : h.image.Readable Image.binStart 4 := by
    unfold ofImage at ho
    cases hr : rootRecord h.image with
    | error fault =>
      rw [hr] at ho
      cases ho
    | ok record =>
      obtain ⟨letters, -, hr⟩ := Failing.bind_eq_ok.mp hr
      split at hr
      · cases hr
      · obtain ⟨_, hcheck, -⟩ := Failing.bind_eq_ok.mp hr
        obtain ⟨signature, hsignature, -⟩ := Failing.bind_eq_ok.mp hcheck
        exact Image.readable_of_number hsignature
  have hheader : h.image.Readable 0xC 8 := by
    unfold Image.Readable Image.binStart at hbin
    unfold Image.Readable
    omega
  obtain ⟨k, hk⟩ := Image.number_of_readable hheader
  change ∃ ticks, (h.image.timestampAt 0xC).mapError Fault.record = .ok ticks
  have hstamp : h.image.qword 0xC = .ok k := hk
  rw [Image.timestampAt, hstamp]
  exact ⟨_, rfl⟩

end HiveFile

end HiveDump
