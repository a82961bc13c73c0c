import HiveDump.Hive.Source
import HiveDump.Policy
import Std.Data.HashSet

/-!
# What a walk meets

A walk goes through a hive depth first: it enters a node, meets the node's values, then its subkeys
with all that lies below them, and leaves the node. A node is entered once; a subkey that was
entered before is a malformed entry. `Walk.events` lists what is met, in order.

The stack of open nodes is a list of frames, each with the entries that are still to be read, so
the depth of a hive costs no stack of the program. Every step of `descend` enters one node that was
not entered before, so the source's capacity bounds the number of steps.
-/

namespace HiveDump

/-- What a walk meets. -/
inductive Event
  /-- A line for the log, left by reading an entry. -/
  | note (line : LogLine)
  | enter (n : Node)
  | value (n : Node) (v : Value)
  | leave (n : Node)
  /-- An entry or a list of a node that could not be read. -/
  | malformed (fault : Fault) (list : EntryList) (n : Node)
  /-- A fault that ends every walk. -/
  | failed (fault : Fault)

namespace Event

/-- Whether the event is a malformed entry or list. -/
def isMalformed : Event → Bool
  | .malformed .. => true
  | _ => false

/-- Whether the event ends every walk. -/
def isFailed : Event → Bool
  | .failed _ => true
  | _ => false

end Event

namespace Walk

/-- The nodes entered so far, by their handles. -/
abbrev Visited := Std.HashSet Int

/-- A fault met in a list of a node. -/
def faultEvent (list : EntryList) (n : Node) (fault : Fault) : Event :=
  if fault.isMalformed then .malformed fault list n else .failed fault

/-- What reading an entry leads to, apart from the entry itself. -/
def entryEvents {α : Type} (list : EntryList) (n : Node) (e : Entry α) : List Event :=
  e.trace.map .note ++
    match e.outcome with
    | .ok _ => []
    | .error fault => [faultEvent list n fault]

/-- What is met in the values of a node. -/
def valueEvents (src : Source) (n : Node) : List Event :=
  (Listing.entries (src.values n)).flatMap fun e =>
    entryEvents .values n e ++ (e.good?.map (Event.value n)).toList

/-- What is met when a node is entered. -/
def enterEvents (src : Source) (n : Node) : List Event :=
  .enter n :: valueEvents src n

/-- An open node with the entries of its subkeys that are still to be read. -/
structure Frame where
  node : Node
  rest : List (Entry Node)

/-- An open node none of whose subkeys has been read. -/
def Frame.of (src : Source) (n : Node) : Frame :=
  ⟨n, Listing.entries (src.children n)⟩

/-- Reads entries of a node up to the first one that can be entered; gives it, and the entries
behind it. Events are added to `met`. -/
def nextChild (visited : Visited) (n : Node) :
    (rest : List (Entry Node)) → (met : Array Event) →
      Array Event × Option (Node × List (Entry Node))
  | [], met => (met, none)
  | e :: rest, met =>
    let met := met.appendList (entryEvents .subkeys n e)
    match e.good? with
    | none => nextChild visited n rest met
    | some child =>
      if visited.contains child.handle then
        nextChild visited n rest
          (met.push (.malformed (.revisited child.handle n.handle) .subkeys n))
      else (met, some (child, rest))

/-- Leaves every open node that has nothing left to enter; gives the next node to enter, and the
frames that stay open. -/
def nextNode (visited : Visited) :
    (frames : List Frame) → (met : Array Event) → Array Event × Option (Node × List Frame)
  | [], met => (met, none)
  | f :: frames, met =>
    match nextChild visited f.node f.rest met with
    | (met, some (child, rest)) => (met, some (child, ⟨f.node, rest⟩ :: frames))
    | (met, none) => nextNode visited frames (met.push (.leave f.node))

/-- Walks on from the open nodes, entering at most `budget` more. -/
def descend (src : Source) :
    (budget : Nat) → Visited → (frames : List Frame) → (met : Array Event) → Array Event
  | 0, visited, frames, met => (nextNode visited frames met).1
  | budget + 1, visited, frames, met =>
    match nextNode visited frames met with
    | (met, none) => met
    | (met, some (child, frames)) =>
      descend src budget (visited.insert child.handle) (Frame.of src child :: frames)
        (met.appendList (enterEvents src child))

/-- What a walk through a hive meets, in order. -/
def events (src : Source) : List Event :=
  (descend src src.capacity (Std.HashSet.emptyWithCapacity.insert src.root.handle)
    [Frame.of src src.root] (enterEvents src src.root).toArray).toList

end Walk

end HiveDump
