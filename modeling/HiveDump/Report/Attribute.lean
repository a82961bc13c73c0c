import HiveDump.Markup.Writer
import HiveDump.Session

/-!
# Attributes that are safe to read

Names and texts of a hive may hold anything. An attribute shows the bytes of a text up to the first
zero byte: as they are if all of them are printable ASCII, and otherwise in base64, with a second
attribute in front of it that says so.

Main statement: `firstUnprintable?_eq_none_iff`, only printable ASCII is shown as it is.
-/

namespace HiveDump

namespace Action

/-- A call to the writer of a run. -/
def write {α : Type} (act : Writing α) : Action Writer α := do
  let s ← get
  let (result, writer) := s.output.call act
  set { s with output := writer }
  match result with
  | .ok a => return a
  | .error fault => throw (.write fault)

end Action

/-- What an attribute shows. -/
inductive AttributeData
  | text (s : String)
  | bytes (b : Bytes)
  deriving DecidableEq, Repr

namespace AttributeData

/-- The bytes of the data, of a text in UTF-8. -/
def toBytes : AttributeData → Bytes
  | text s => Utf8.encode s
  | bytes b => b

/-- The bytes in front of the first zero byte. -/
def terminated (d : AttributeData) : Bytes :=
  d.toBytes.takeWhile (· ≠ 0)

end AttributeData

/-- How an attribute is written. -/
inductive AttributeEncoding
  | plain
  | base64
  deriving DecidableEq, Repr

/-- The name of an encoding. -/
def AttributeEncoding.name : AttributeEncoding → String
  | plain => "none"
  | base64 => "base64"

namespace Report

/-- Whether a byte is a printable ASCII character. -/
def isPrintable (b : Int) : Bool :=
  0x20 ≤ b && b ≤ 0x7E

/-- Position and value of the first byte that is not printable, counted from `position`. -/
def firstUnprintable? (position : Nat) : Bytes → Option (Nat × UInt8)
  | [] => none
  | b :: rest =>
    if isPrintable b.toNat then firstUnprintable? (position + 1) rest else some (position, b)

theorem firstUnprintable?_eq_none_iff (position : Nat) (b : Bytes) :
    firstUnprintable? position b = none ↔ ∀ x ∈ b, isPrintable x.toNat = true := by
  induction b generalizing position with
  | nil => simp [firstUnprintable?]
  | cons x xs ih =>
    by_cases h : isPrintable x.toNat = true <;> simp [firstUnprintable?, h, ih]

/-- How data has to be written, with a line for the log if it is not plain. -/
def recommend (d : AttributeData) : AttributeEncoding × Option LogLine :=
  match firstUnprintable? 0 d.terminated with
  | none => (.plain, none)
  | some (i, b) =>
    (.base64, some ⟨.debug, .encoding, "encoding_recommendation: non-printable character found " ++
      s!"at data index {i} (c={b.toNat})"⟩)

/-- Text in front of its first zero character. -/
def untilNul (s : String) : String :=
  String.ofList (s.toList.takeWhile (· ≠ '\x00'))

/-- Data that is known to start with printable ASCII, as text. -/
def plainText (d : AttributeData) : Action Writer String :=
  match d with
  | .text s => return untilNul s
  | .bytes b =>
    if b.all (· < 0x80) then
      return untilNul (String.ofList (b.map fun x => Char.ofNat x.toNat))
    else throw .notASCII

/-- Writes bytes in base64, behind the attribute that says so. -/
def base64Attribute (name encodingName : String) (data : Bytes) : Action Writer Unit := do
  Action.write (Writer.writeAttribute encodingName AttributeEncoding.base64.name)
  Action.write (Writer.startAttribute name)
  Action.write (Writer.writeBase64 data 0 (some data.length))
  Action.write Writer.endAttribute

/-- Writes data as it is if that is safe, and otherwise in base64. -/
def safeAttribute (name encodingName : Option String) (data : Option AttributeData) :
    Action Writer AttributeEncoding := do
  match name, encodingName, data with
  | _, _, none => throw (.missingAttributeData name)
  | some name, some encodingName, some data =>
    let (encoding, line) := recommend data
    match line with
    | some line => Action.log line
    | none => pure ()
    match encoding with
    | .plain => Action.write (Writer.writeAttribute name (← plainText data))
    | .base64 => base64Attribute name encodingName data.terminated
    return encoding
  | _, _, some _ => throw (.missingAttributeName name)

end Report

end HiveDump
