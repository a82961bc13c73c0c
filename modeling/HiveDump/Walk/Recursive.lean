import HiveDump.Walk.Event

/-!
# A walk by recursion

`Walk.Recursive` says what is met in a hive by recursion on the tree that a walk spans: a node is
entered, its values are met, then each subkey that was not entered before is walked in the same way,
and the node is left. It needs no stack and no bound, and says in one piece what `Walk.events` does
with both.

The nodes entered so far are given by their handles, the latest first.
-/

namespace HiveDump.Walk

/-- What is met in a node, around what is met in its subkeys. -/
def around (src : Source) (n : Node) (inside : List Event) : List Event :=
  enterEvents src n ++ inside ++ [.leave n]

/-- Reading the entries `rest` of the open node `n`, with the nodes `entered` so far, meets these
events and leaves these nodes entered. -/
inductive Inside (src : Source) :
    (entered : List Int) → (n : Node) → (rest : List (Entry Node)) → List Event →
      (after : List Int) → Prop
  | nil {entered n} : Inside src entered n [] [] entered
  | bad {entered n e rest behind after} (he : e.good? = none)
      (hrest : Inside src entered n rest behind after) :
      Inside src entered n (e :: rest) (entryEvents .subkeys n e ++ behind) after
  /-- A subkey that was entered before is a malformed entry. -/
  | again {entered n e child rest behind after} (he : e.good? = some child)
      (hc : child.handle ∈ entered) (hrest : Inside src entered n rest behind after) :
      Inside src entered n (e :: rest) (entryEvents .subkeys n e ++
        .malformed (.revisited child.handle n.handle) .subkeys n :: behind) after
  | fresh {entered n e child rest here between behind after} (he : e.good? = some child)
      (hc : child.handle ∉ entered)
      (hchild : Inside src (child.handle :: entered) child
        (Listing.entries (src.children child)) here between)
      (hrest : Inside src between n rest behind after) :
      Inside src entered n (e :: rest)
        (entryEvents .subkeys n e ++ around src child here ++ behind) after

/-- What a walk through a hive meets, in order, by recursion. -/
def Recursive (src : Source) (evs : List Event) : Prop :=
  ∃ inside after, Inside src [src.root.handle] src.root
    (Listing.entries (src.children src.root)) inside after ∧ evs = around src src.root inside

end HiveDump.Walk
