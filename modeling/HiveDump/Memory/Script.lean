import HiveDump.Memory.Hive

/-!
# Building a hive step by step

A script names the nodes and values of the hive it builds by their order of creation; node 0 is the
root. A step that refers to something not yet built changes nothing.
-/

namespace HiveDump.MemoryHive

/-- A step of a script. -/
inductive Step
  | key (parent : Nat) (key : NewKey)
  /-- Nested keys, each below the one before, named by a label and their number. -/
  | chain (parent count : Nat) (label : String)
  | value (node : Nat) (value : NewValue)
  | badChild (node : Nat) (message : String)
  | badValue (node : Nat) (message : String)
  /-- Lists a node once more, below another parent. -/
  | link (parent child : Nat)
  | invalidNode (node : Nat)
  | invalidValue (value : Nat)
  | lostCell (value : Nat)
  | unreadableList (node : Nat)
  | failToClose
  | dataCellFault (value : Nat) (fault : Fault)

/-- What a step has built. -/
inductive Built
  | node (handle : Int)
  | value (v : Value)

/-- A hive under construction, with its nodes and values in order of creation. -/
structure Site where
  hive : MemoryHive
  nodes : Array Node
  values : Array Value := #[]
  built : Array Built := #[]

namespace Site

/-- A site that holds a root. -/
def start (hive : MemoryHive) : Site :=
  { hive := hive, nodes := #[hive.root] }

/-- Applies `change` to the handle of a node, if it is built. -/
def onNode (s : Site) (node : Nat) (change : Int → Site) : Site :=
  match s.nodes[node]? with
  | some n => change n.handle
  | none => s

/-- Applies `change` to the handle of a value, if it is built. -/
def onValue (s : Site) (value : Nat) (change : Int → Site) : Site :=
  match s.values[value]? with
  | some v => change v.handle
  | none => s

/-- Adds a key below the node with a handle. -/
def addKey (s : Site) (parent : Int) (key : NewKey) : Site × Node :=
  let (hive, node) := s.hive.addKey parent key
  ({ s with hive := hive, nodes := s.nodes.push node }, node)

/-- Adds nested keys whose numbers count up from `first`, and gives the handle of the last. -/
def addChain (s : Site) (parent : Int) (label : String) : (first count : Nat) → Site × Int
  | _, 0 => (s, parent)
  | first, n + 1 =>
    let (s, node) := s.addKey parent { name := some s!"{label}{first}" }
    s.addChain node.handle label (first + 1) n

/-- Takes a step. -/
def step (s : Site) : Step → Site
  | .key parent key => s.onNode parent fun handle =>
    let (s, node) := s.addKey handle key
    { s with built := s.built.push (.node node.handle) }
  | .chain parent count label => s.onNode parent fun handle =>
    let (s, last) := s.addChain handle label 0 count
    { s with built := s.built.push (.node last) }
  | .value node new => s.onNode node fun handle =>
    let (hive, value) := s.hive.addValue handle new
    { s with hive := hive, values := s.values.push value, built := s.built.push (.value value) }
  | .badChild node message => s.onNode node fun handle =>
    { s with hive := s.hive.appendChild handle (.bad message handle) }
  | .badValue node message => s.onNode node fun handle =>
    { s with hive := s.hive.appendValue handle (.bad message handle) }
  | .link parent child => s.onNode parent fun handle =>
    match s.nodes[child]? with
    | some node => { s with hive := s.hive.appendChild handle (.good node) }
    | none => s
  | .invalidNode node => s.onNode node fun handle =>
    { s with hive := { s.hive with invalidHandles := handle :: s.hive.invalidHandles } }
  | .invalidValue value => s.onValue value fun handle =>
    { s with hive := { s.hive with invalidHandles := handle :: s.hive.invalidHandles } }
  | .lostCell value => s.onValue value fun handle =>
    { s with hive := { s.hive with lostDataCells := handle :: s.hive.lostDataCells } }
  | .unreadableList node => s.onNode node fun handle =>
    { s with hive := { s.hive with unreadableLists := handle :: s.hive.unreadableLists } }
  | .failToClose => { s with hive := { s.hive with failsToClose := true } }
  | .dataCellFault value fault => s.onValue value fun handle =>
    { s with hive := { s.hive with dataCellFaults := s.hive.dataCellFaults.put handle fault } }

end Site

/-- Builds a hive from its root by a script. -/
def build (root : MemoryHive) (steps : List Step) : Site :=
  steps.foldl Site.step (Site.start root)

end HiveDump.MemoryHive
