import HiveDump.Report.Element
import HiveDump.Report.Grammar

/-!
# What a reader finds in the element of a value

The payload of a value can be found again in its element. `Kind.label` is the type that the element
names. A text stands in an attribute as it is, or in base64 if a second attribute says so
(`readBack?`), up to its first zero character. Stored bytes always stand in base64. Kinds that have
no form of their own leave out both attributes if there is nothing to show.

`GivesBack` puts this together, for values whose content has the type that their kind promises
(`Kind.Admits`).
-/

namespace HiveDump

open Markup

/-! ## Kinds -/

/-- The type of a value's element. -/
def Kind.label (decoded : Bool) : Kind → String
  | string => if decoded then "string" else "bad-string"
  | expandString => if decoded then "expand" else "bad-expand"
  | link => if decoded then "link" else "bad-link"
  | strings => if decoded then "string-list" else "bad-string-list"
  | dword | dwordBigEndian => "int32"
  | qword => "int64"
  | binary => "binary"
  | none => "none"
  | resourceList => "resource-list"
  | resourceDescription => "resource-description"
  | resourceRequirements => "resource-requirements"
  | unnamed _ => "unknown"

/-- Whether decoded content has the type that a kind promises. -/
def Kind.Admits (kind : Kind) (p : Payload) : Prop :=
  match kind with
  | .string | .expandString | .link => ∃ s, p = .text s
  | .strings => ∃ ss : List String, p = .texts (ss.map some)
  | .dword | .dwordBigEndian | .qword => ∃ n, p = .number n
  | _ => True

namespace Report

/-! ## Attributes -/

/-- The value of an attribute. -/
def attribute? (name : String) (attributes : List Attribute) : Option String :=
  (attributes.find? (·.name == name)).map (·.value)

/-- The bytes of an attribute that is written in base64. -/
def base64? (name : String) (attributes : List Attribute) : Option Bytes :=
  (attribute? name attributes).bind fun text => Base64.decode? text.toList

/-- The bytes of an attribute that is written in base64 if another one says so. -/
def readBack? (name encodingName : String) (attributes : List Attribute) : Option Bytes :=
  if attribute? encodingName attributes = some AttributeEncoding.base64.name then
    base64? name attributes
  else (attribute? name attributes).map Utf8.encode

/-- Whether a payload is a text, up to its first zero character. -/
def ShowsText (attributes : List Attribute) (s : String) : Prop :=
  readBack? "value" "value_encoding" attributes = some (Utf8.encode (untilNul s))

/-- Whether a payload is these bytes, in base64. -/
def ShowsBytes (attributes : List Attribute) (b : Bytes) : Prop :=
  attribute? "value_encoding" attributes = some AttributeEncoding.base64.name ∧
    base64? "value" attributes = some b

/-- Whether there is no payload. -/
def ShowsNothing (attributes : List Attribute) : Prop :=
  attribute? "value_encoding" attributes = none ∧ attribute? "value" attributes = none

/-! ## Elements -/

/-- Whether elements are those of the texts of a list, in order. -/
def ShowsTexts (ts : List Tree) (ss : List String) : Prop :=
  ∃ attributes : String → List Attribute, (∀ s ∈ ss, ShowsText (attributes s) s) ∧
    ts = ss.map fun s => .element "string" (attributes s) []

/-- Whether attributes and texts in an element give back the payload of a value; of a number they
show the number alone. -/
def GivesBack (v : Value) (attributes : List Attribute) (texts : List Tree) : Prop :=
  let stored := v.raw.take v.length.toNat
  match v.kind, v.decoded with
  | .string, true | .expandString, true | .link, true =>
    texts = [] ∧ ∃ s, v.data = .text s ∧ ShowsText attributes s
  | .strings, true =>
    ∃ ss : List String, v.data = .texts (ss.map some) ∧ ShowsTexts texts ss
  | .string, false | .expandString, false | .link, false | .strings, false | .binary, _ =>
    texts = [] ∧ ShowsBytes attributes stored
  | .none, _ | .resourceList, _ | .resourceDescription, _ | .resourceRequirements, _
  | .unnamed _, _ =>
    texts = [] ∧ if v.length = 0 then ShowsNothing attributes else ShowsBytes attributes stored
  | .dword, _ | .dwordBigEndian, _ | .qword, _ => texts = []

end Report

end HiveDump
