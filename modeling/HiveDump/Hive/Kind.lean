/-!
# Kinds of value

A value's descriptor names the kind of its payload by a number. Twelve numbers are named; any other
is carried along as it is.

Main statement: `id_ofId`, a kind stands for the number it was made from; `ofId_id_of_named` says
that the twelve named kinds are found again.
-/

namespace HiveDump

/-- What a value's descriptor says about its payload. -/
inductive Kind
  | none
  | string
  | expandString
  | binary
  | dword
  | dwordBigEndian
  | link
  | strings
  | resourceList
  | resourceDescription
  | resourceRequirements
  | qword
  /-- A number without a name. -/
  | unnamed (id : Int)
  deriving DecidableEq, Repr

namespace Kind

/-- The named kinds, in the order of their numbers. -/
def named : List Kind :=
  [none, string, expandString, binary, dword, dwordBigEndian, link, strings, resourceList,
    resourceDescription, resourceRequirements, qword]

/-- The number of a kind. -/
def id : Kind → Int
  | none => 0
  | string => 1
  | expandString => 2
  | binary => 3
  | dword => 4
  | dwordBigEndian => 5
  | link => 6
  | strings => 7
  | resourceList => 8
  | resourceDescription => 9
  | resourceRequirements => 10
  | qword => 11
  | unnamed n => n

/-- The kind with a number. -/
def ofId (n : Int) : Kind :=
  (named.find? (·.id == n)).getD (unnamed n)

/-- Whether the kind has a name. -/
def isNamed : Kind → Bool
  | unnamed _ => false
  | _ => true

/-- Kinds whose payload is text, which may fail to decode. -/
def isText : Kind → Bool
  | string | expandString | link | strings => true
  | _ => false

/-- The name of a kind in messages. -/
def name? : Kind → Option String
  | none => some "NONE"
  | string => some "STRING"
  | expandString => some "EXPAND_STRING"
  | binary => some "BINARY"
  | dword => some "DWORD"
  | dwordBigEndian => some "DWORD_BE"
  | link => some "LINK"
  | strings => some "MULTIPLE_STRINGS"
  | resourceList => some "RESOURCE_LIST"
  | resourceDescription => some "FULL_RESOURCE_DESCRIPTION"
  | resourceRequirements => some "RESOURCE_REQUIREMENTS_LIST"
  | qword => some "QWORD"
  | unnamed _ => Option.none

/-- A kind in messages: its name and number, or the number alone. -/
def describe (k : Kind) : String :=
  match k.name? with
  | some name => s!"<ValueType.{name}: {k.id}>"
  | Option.none => s!"{k.id}"

theorem id_ofId (n : Int) : (ofId n).id = n := by
  unfold ofId
  cases h : named.find? (·.id == n) with
  | none => rfl
  | some k => simpa using List.find?_some h

theorem ofId_id_of_named {k : Kind} (h : k.isNamed = true) : ofId k.id = k := by
  cases k with
  | unnamed n => simp [isNamed] at h
  | _ => rfl

end Kind

end HiveDump
