import HiveDump.Hive.Item
import HiveDump.Text.Utf16

/-!
# Stored payloads

`Payload.stored` is the form in which a hive stores a payload of a kind: texts in UTF-16 with their
terminators, numbers in four or eight bytes of their kind's order, anything else as it is. A number
in a kind without numbers stands for that many zero bytes.
-/

namespace HiveDump.Payload

/-- The text of a payload, empty if it has none. -/
def textOrEmpty : Payload → String
  | text s => s
  | _ => ""

/-- The texts of a payload, without the missing ones. -/
def textList : Payload → List String
  | texts ss => ss.filterMap id
  | _ => []

/-- The low `bits` bits of the payload's number. -/
def lowBits (bits : Nat) : Payload → Nat
  | number n => (BitVec.ofInt bits n).toNat
  | _ => 0

/-- The bytes of a payload without encoding. -/
def plainBytes : Payload → Bytes
  | bytes b => b
  | number n => List.replicate n.toNat 0
  | _ => []

/-- The bytes that a hive stores for a payload of a kind. -/
def stored (kind : Kind) (p : Payload) : Bytes :=
  match kind with
  | .strings => Utf16.encodeStrings p.textList
  | .string | .expandString | .link => Utf16.encodeString p.textOrEmpty
  | .dword => Bytes.ofLittleEndian 4 (p.lowBits 32)
  | .dwordBigEndian => Bytes.ofBigEndian 4 (p.lowBits 32)
  | .qword => Bytes.ofLittleEndian 8 (p.lowBits 64)
  | _ => p.plainBytes

end HiveDump.Payload
