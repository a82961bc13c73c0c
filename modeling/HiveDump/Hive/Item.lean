import HiveDump.Bytes
import HiveDump.Hive.Kind
import HiveDump.Text.Quoted

/-!
# Nodes and values

A `Node` is a key of the hive and a `Value` is one of the values attached to it. Both are known by a
handle, the offset of their cell: two nodes with one handle are the same node, whatever their other
fields say, and likewise for values. A node never equals a value.

A name that could not be decoded is missing; its stored bytes are kept beside it.
-/

namespace HiveDump

/-- The decoded content of a value. -/
inductive Payload
  | absent
  | text (s : String)
  | bytes (b : Bytes)
  | number (n : Int)
  /-- A list of texts, of which some may be missing. -/
  | texts (ss : List (Option String))
  deriving DecidableEq, Repr

/-- A key of a hive. -/
structure Node where
  handle : Int
  name : Option String
  storedName : Bytes := []
  deriving DecidableEq, Repr

/-- A value of a node. -/
structure Value where
  handle : Int
  /-- The value's name: the empty text for the default value, missing if it did not decode. -/
  key : Option String
  storedKey : Bytes := []
  kind : Kind
  /-- The length of the payload in bytes. -/
  length : Int
  data : Payload := .absent
  /-- The payload as it is stored. -/
  raw : Bytes := []
  /-- Whether the payload could be decoded as its kind asks for. -/
  decoded : Bool := true
  deriving DecidableEq, Repr

namespace Node

/-- A node in messages. -/
def describe (n : Node) : String :=
  s!"HiveNode(handle={n.handle}, name={Quoted.optional n.name})"

end Node

namespace Value

/-- Whether the value is its node's unnamed default value. -/
def isDefault (v : Value) : Bool :=
  v.key == some ""

/-- A value in messages. -/
def describe (v : Value) : String :=
  let decoded := if v.decoded then "True" else "False"
  s!"HiveValue(handle={v.handle}, key={Quoted.optional v.key}, type={v.kind.describe}, " ++
    s!"length={v.length}, decoded={decoded})"

end Value

/-- A node or a value, or a number or text to compare them with. -/
inductive Item
  | node (n : Node)
  | value (v : Value)
  | number (n : Int)
  | text (s : String)

namespace Item

/-- Whether two items stand for the same thing. -/
def same : Item → Item → Bool
  | node a, node b => a.handle == b.handle
  | value a, value b => a.handle == b.handle
  | number a, number b => a == b
  | text a, text b => a == b
  | _, _ => false

/-- An item in messages, if it is a node or a value. -/
def describe? : Item → Option String
  | node n => some n.describe
  | value v => some v.describe
  | _ => none

/-- The number of different things among the items. -/
def countDistinct : List Item → Nat
  | [] => 0
  | i :: rest => countDistinct rest + if rest.any i.same then 0 else 1

end Item

end HiveDump
