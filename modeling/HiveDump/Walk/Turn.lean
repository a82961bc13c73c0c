import HiveDump.Loop
import HiveDump.Walk.Run

/-!
# A walk turn by turn

A walk is a loop. What it has left to do is a stack of tasks: a node to enter, values of a node to
tell, subkeys of an open node to read. In one turn it takes up one entry of the task on top, or is
done with the task, and deals with what it meets. Nothing limits the number of turns.

The nodes entered so far are given by their handles, the latest first.
-/

namespace HiveDump.Walk

/-- Something a walk has left to do. -/
inductive Task
  | enter (n : Node)
  /-- Telling these values of a node. -/
  | values (n : Node) (rest : List (Entry Value))
  /-- Reading these subkeys of an open node, and leaving it. -/
  | subkeys (n : Node) (rest : List (Entry Node))

/-- A walk under way. -/
structure Underway where
  entered : List Int
  tasks : List Task

/-- What is met at an entry of the values of a node. -/
def valueEntryEvents (n : Node) (e : Entry Value) : List Event :=
  entryEvents .values n e ++ (e.good?.map (Event.value n)).toList

/-- What is met in the next turn, and what is left to do behind it. -/
def next (src : Source) : Underway → Option (List Event × Underway)
  | ⟨_, []⟩ => none
  | ⟨entered, .enter n :: tasks⟩ =>
    some ([.enter n], ⟨entered, .values n (Listing.entries (src.values n)) ::
      .subkeys n (Listing.entries (src.children n)) :: tasks⟩)
  | ⟨entered, .values _ [] :: tasks⟩ => some ([], ⟨entered, tasks⟩)
  | ⟨entered, .values n (e :: rest) :: tasks⟩ =>
    some (valueEntryEvents n e, ⟨entered, .values n rest :: tasks⟩)
  | ⟨entered, .subkeys n [] :: tasks⟩ => some ([.leave n], ⟨entered, tasks⟩)
  | ⟨entered, .subkeys n (e :: rest) :: tasks⟩ =>
    let met := entryEvents .subkeys n e
    match e.good? with
    | none => some (met, ⟨entered, .subkeys n rest :: tasks⟩)
    | some child =>
      if child.handle ∈ entered then
        some (met ++ [.malformed (.revisited child.handle n.handle) .subkeys n],
          ⟨entered, .subkeys n rest :: tasks⟩)
      else some (met, ⟨child.handle :: entered, .enter child :: .subkeys n rest :: tasks⟩)

/-- A walk that has not begun. -/
def start (src : Source) : Underway :=
  ⟨[src.root.handle], [.enter src.root]⟩

variable {δ : Type}

/-- What a walk does when it has nothing left to do. -/
def conclude : Action δ Tally := do
  let tally := (← get).tally
  Action.debug .walk s!"traversal finished: {describeTally tally}"
  return tally

/-- One turn of a walk: it deals with what it meets, and stops at the first step that fails. -/
def turn (src : Source) (skipping : Bool) (visitor : Visitor δ) :
    Underway × Session δ → (Underway × Session δ) ⊕ (Except Fault Tally × Session δ)
  | (w, s) =>
    match next src w with
    | none => .inr (conclude.perform s)
    | some (met, w) =>
      match (met.forM (step skipping visitor)).perform s with
      | (.ok _, s) => .inl (w, s)
      | (.error fault, s) => .inr (.error fault, s)

end HiveDump.Walk
