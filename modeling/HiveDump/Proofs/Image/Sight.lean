import HiveDump.Image.Layout
import HiveDump.Walk.Callback

/-!
# What is seen of a hive

What a walk shows of a hive apart from the handles of its cells: a key's name, stored name and time
stamp, and a value's name, stored name, kind and payload. `Layout.Key.seen` is what should be seen
of a tree that was laid out, `Callback.seenIn` what a call of a visitor shows of a source.
-/

namespace HiveDump

/-- What is seen of a key. -/
structure KeySeen where
  name : Option String
  storedName : Bytes
  timestamp : Option Int
  deriving DecidableEq, Repr

/-- What is seen of a value. -/
structure ValueSeen where
  key : Option String
  storedKey : Bytes
  kind : Kind
  payload : Bytes
  deriving DecidableEq, Repr

/-- What a call of a visitor shows. -/
inductive Seen
  | enter (k : KeySeen)
  | value (k : KeySeen) (v : ValueSeen)
  | leave (k : KeySeen)
  deriving DecidableEq, Repr

/-- What is seen of a node; its time stamp is asked for. -/
def Node.seenIn (src : Source) (n : Node) : Except Fault KeySeen :=
  (src.timestamp n).map fun t => ⟨n.name, n.storedName, t⟩

/-- What is seen of a value. -/
def Value.seen (v : Value) : ValueSeen :=
  ⟨v.key, v.storedKey, v.kind, v.raw⟩

/-- What a call shows of a source. -/
def Callback.seenIn (src : Source) : Callback → Except Fault Seen
  | .enter n => (n.seenIn src).map .enter
  | .value n v => (n.seenIn src).map fun k => .value k v.seen
  | .leave n => (n.seenIn src).map .leave

namespace Layout

variable {α : Type}

/-- A key's time stamp; zero means that there is none. -/
def KeyHead.time? (head : KeyHead) : Option Int :=
  if head.timestamp = 0 then none else some (head.timestamp : Int)

/-- What is to be seen of a key. -/
def KeyHead.seen (head : KeyHead) : KeySeen :=
  ⟨head.name.text?, head.name.bytes, head.time?⟩

/-- What is to be seen of a value. -/
def ValueDraft.seen (v : ValueDraft) : ValueSeen :=
  ⟨v.name.text?, v.name.bytes, Kind.ofId v.typeId, v.payload⟩

/-- What is to be seen of a key's values. -/
def valuesSeen (head : KeyHead) (values : List (α × ValueDraft)) : List Seen :=
  values.map fun p => .value head.seen p.2.seen

mutual

/-- What is to be seen of a key and everything below it. -/
def Key.seen : Key α → List Seen
  | .key _ head values none => .enter head.seen :: valuesSeen head values ++ [.leave head.seen]
  | .key _ head values (some list) =>
    .enter head.seen :: valuesSeen head values ++ list.seen ++ [.leave head.seen]

/-- What is to be seen of the keys that a list names. -/
def KeyList.seen : KeyList α → List Seen
  | .keys _ _ named => seenAll named
  | .lists _ below => seenBelow below

/-- What is to be seen of keys side by side. -/
def seenAll : List (Key α) → List Seen
  | [] => []
  | key :: keys => key.seen ++ seenAll keys

/-- What is to be seen of the keys that lists name. -/
def seenBelow : List (KeyList α) → List Seen
  | [] => []
  | list :: lists => list.seen ++ seenBelow lists

end

end Layout

end HiveDump
