import HiveDump.Walk.Recursive
import HiveDump.Walk.Run

/-!
# What a visitor is told

A `Callback` is one call of a visitor. `Visitor.recorded` is a visitor that writes down each call
it gets before it does what the visitor does, and `Walk.fired` is what it has written down when a
walk is over, whether the walk came to its end or not.

`Walk.Spans` says in its own words which calls a walk should make: a node is entered, its readable
values are told in order, then each readable subkey is walked whose handle was not entered before,
and the node is left.
-/

namespace HiveDump

/-- A call of a visitor. -/
inductive Callback
  | enter (n : Node)
  | value (n : Node) (v : Value)
  | leave (n : Node)

/-- The call that is made for an event, if one is made. -/
def Event.callback? : Event → Option Callback
  | .enter n => some (.enter n)
  | .value n v => some (.value n v)
  | .leave n => some (.leave n)
  | _ => none

/-- The session with another output. -/
def Session.withOutput {δ ε : Type} (s : Session δ) (output : ε) : Session ε :=
  ⟨output, s.policy, s.tally, s.diagnostics⟩

/-- The session without a record beside its output. -/
def Session.unrecorded {δ ε : Type} (s : Session (δ × ε)) : Session δ :=
  s.withOutput s.output.1

/-- A step on the output alone, in a session with a record beside it. -/
def Action.besideRecord {δ ε α : Type} (act : Action δ α) : Action (δ × ε) α :=
  ExceptT.mk fun s =>
    let (result, t) := act.perform s.unrecorded
    (result, t.withOutput (t.output, s.output.2))

/-- Writes a call down. -/
def Callback.record {δ : Type} (call : Callback) : Action (δ × List Callback) Unit :=
  modify fun s => s.withOutput (s.output.1, s.output.2 ++ [call])

/-- The visitor, with every call written down before it is made. -/
def Visitor.recorded {δ : Type} (visitor : Visitor δ) : Visitor (δ × List Callback) where
  enter n := do
    Callback.record (.enter n)
    (visitor.enter n).besideRecord
  value n v := do
    Callback.record (.value n v)
    (visitor.value n v).besideRecord
  leave n := do
    Callback.record (.leave n)
    (visitor.leave n).besideRecord

namespace Walk

variable {δ : Type}

/-- The calls that a walk makes, in order. -/
def fired (src : Source) (skipping : Bool) (visitor : Visitor δ) (s : Session δ) : List Callback :=
  ((run src skipping visitor.recorded).perform (s.withOutput (s.output, []))).2.output.2

/-- The calls for a node, around those for its subkeys. -/
def callsAround (src : Source) (n : Node) (inside : List Callback) : List Callback :=
  .enter n :: (Listing.good (src.values n)).map (.value n) ++ inside ++ [.leave n]

/-- With the nodes `entered` so far, walking through the subkeys `rest` makes these calls and leaves
these nodes entered. -/
inductive Spans (src : Source) :
    (entered : List Int) → (rest : List Node) → List Callback → (after : List Int) → Prop
  | nil {entered} : Spans src entered [] [] entered
  | again {entered child rest behind after} (hc : child.handle ∈ entered)
      (hrest : Spans src entered rest behind after) :
      Spans src entered (child :: rest) behind after
  | fresh {entered child rest here between behind after} (hc : child.handle ∉ entered)
      (hchild : Spans src (child.handle :: entered) (Listing.good (src.children child)) here between)
      (hrest : Spans src between rest behind after) :
      Spans src entered (child :: rest) (callsAround src child here ++ behind) after

/-- The calls of a plain recursive walk through a hive. -/
def PlainWalk (src : Source) (calls : List Callback) : Prop :=
  ∃ inside after, Spans src [src.root.handle] (Listing.good (src.children src.root)) inside after ∧
    calls = callsAround src src.root inside

end Walk

end HiveDump
