import HiveDump.Hive.Shape
import HiveDump.Session
import HiveDump.Walk.Event

/-!
# Running a walk

A `Visitor` is told of every node that is entered and left and of every value. `Walk.run` tells it
of everything a walk meets, keeps the tally, and stops at the first step that fails.

What is malformed ends the walk, or, in a walk that skips it, is submitted to the error policy.
-/

namespace HiveDump

/-- Who is told of nodes and values. -/
structure Visitor (δ : Type) where
  enter : Node → Action δ Unit
  value : Node → Value → Action δ Unit
  leave : Node → Action δ Unit

namespace Walk

variable {δ : Type}

/-- What a walk does about something it meets. -/
def step (skipping : Bool) (visitor : Visitor δ) : Event → Action δ Unit
  | .note line => Action.log line
  | .enter n => do
    Action.count fun t => { t with nodes := t.nodes + 1 }
    visitor.enter n
  | .value n v => do
    Action.count fun t => { t with values := t.values + 1 }
    visitor.value n v
  | .leave n => visitor.leave n
  | .malformed fault list n => do
    if skipping then
      Action.count fun t => { t with skipped := t.skipped + 1 }
      Action.submit fault list.operation (.node n)
    else throw (.aborted list.operation n.handle fault)
  | .failed fault => throw fault

/-- A tally in the log. -/
def describeTally (t : Tally) : String :=
  s!"{t.nodes} nodes, {t.values} values, {t.skipped} skipped"

/-- Walks through a hive. -/
def run (src : Source) (skipping : Bool) (visitor : Visitor δ) : Action δ Tally := do
  (events src).forM (step skipping visitor)
  let tally := (← get).tally
  Action.debug .walk s!"traversal finished: {describeTally tally}"
  return tally

/-! ## Recording what a visitor is told -/

/-- Something a visitor is told. -/
inductive Told
  | enter (n : Node)
  | value (n : Node) (v : Value) (shape : Shape) (payload : Payload)
  | leave (n : Node)

/-- Adds to a record. -/
def tellRecord (told : Told) : Action (Array Told) Unit :=
  modify fun s => { s with output := s.output.push told }

/-- Writes down everything it is told. -/
def recorder : Visitor (Array Told) where
  enter n := tellRecord (.enter n)
  value n v := do
    match v.presentation with
    | .ok (shape, payload) => tellRecord (.value n v shape payload)
    | .error fault => throw fault
  leave n := tellRecord (.leave n)

end Walk

end HiveDump
