import HiveDump.Fault

/-!
# Shapes

The shape of a value is the form in which a report shows it. Kind and decode status determine it:
text that did not decode is shown by its stored bytes, and only text may fail to decode.

Main statement: `shape_eq_ok_iff`, a value has a shape unless it is undecoded and no text.
-/

namespace HiveDump

/-- The forms in which values are shown. -/
inductive Shape
  | string
  | strings
  | badString
  | dword
  | qword
  | binary
  | none
  | other
  deriving DecidableEq, Repr

namespace Shape

/-- All shapes. -/
def all : List Shape := [string, strings, badString, dword, qword, binary, none, other]

/-- The name of a shape. -/
def name : Shape → String
  | string => "string"
  | strings => "string-list"
  | badString => "string-invalid"
  | dword => "int32"
  | qword => "int64"
  | binary => "binary"
  | none => "none"
  | other => "other"

/-- The step of a report that shows values of this shape. -/
def handler : Shape → String
  | string => "value_string"
  | strings => "value_multiple_strings"
  | badString => "value_string_invalid_utf16"
  | dword => "value_dword"
  | qword => "value_qword"
  | binary => "value_binary"
  | none => "value_none"
  | other => "value_other"

/-- The shape of a decoded value. -/
def ofKind : Kind → Shape
  | .string | .expandString | .link => string
  | .strings => strings
  | .dword | .dwordBigEndian => dword
  | .qword => qword
  | .binary => binary
  | .none => none
  | .resourceList | .resourceDescription | .resourceRequirements | .unnamed _ => other

end Shape

namespace Value

/-- The form in which a value is shown. -/
def shape (v : Value) : Except Fault Shape :=
  if v.decoded then .ok (Shape.ofKind v.kind)
  else if v.kind.isText then .ok .badString
  else .error (.misrouted "classify_value" v.kind false)

/-- The entries of a decoded list of texts. -/
def strings (v : Value) : Except Fault (List (Option String)) :=
  if v.kind = .strings ∧ v.decoded then
    match v.data with
    | .texts ss => .ok ss
    | _ => .ok []
  else .error (.notStrings v.describe)

/-- The form in which a value is shown, and what is shown of it. -/
def presentation (v : Value) : Except Fault (Shape × Payload) := do
  let shape ← v.shape
  match shape with
  | .string | .dword | .qword => return (shape, v.data)
  | .strings => return (shape, .texts (← v.strings))
  | .badString | .binary | .none | .other => return (shape, .bytes v.raw)

theorem shape_eq_ok_iff (v : Value) :
    (∃ s, v.shape = .ok s) ↔ v.decoded = true ∨ v.kind.isText = true := by
  unfold shape
  cases v.decoded <;> cases v.kind.isText <;> simp

end Value

end HiveDump
