import HiveDump.Diagnostic
import HiveDump.Fault

/-!
# Sources

A `Source` is a hive that can be walked and asked about: a root, the entries of each node's two
lists, and the facts that place a node or value in the hive's file.

A list is read entry by entry. Reading an entry may fail without spoiling the entries behind it,
and may leave lines in the log; so a list is a `List (Entry α)`, each entry with its outcome and
its trace. Reading a list as a whole may fail too.

Only finitely many handles can be reached from the root: `capacity` bounds their number, and a
source carries the proof of that (`handles_le`).
-/

namespace HiveDump

/-- What reading one entry of a list gave, and what it left in the log. -/
structure Entry (α : Type) where
  outcome : Except Fault α
  trace : List LogLine := []

namespace Entry

/-- The entry, if it could be read. -/
def good? {α : Type} (e : Entry α) : Option α :=
  match e.outcome with
  | .ok a => some a
  | .error _ => none

end Entry

/-- The entries of a list, or the fault that kept the list from being read. -/
abbrev Listing (α : Type) := Except Fault (List (Entry α))

namespace Listing

/-- A listing as entries: an unreadable list is one bad entry. -/
def entries {α : Type} : Listing α → List (Entry α)
  | .ok es => es
  | .error fault => [{ outcome := .error fault }]

/-- What can be read of a listing. -/
def good {α : Type} (l : Listing α) : List α :=
  (entries l).filterMap Entry.good?

theorem mem_good {α : Type} {l : Listing α} {a : α} :
    a ∈ good l ↔ ∃ es, l = .ok es ∧ ∃ e ∈ es, e.outcome = .ok a := by
  have good?_eq_some (e : Entry α) : e.good? = some a ↔ e.outcome = .ok a := by
    unfold Entry.good?
    cases e.outcome <;> simp
  cases l with
  | error fault => simp [good, entries, Entry.good?]
  | ok es => simp [good, entries, List.mem_filterMap, good?_eq_some]

end Listing

/-- The nodes that can be reached from a root by subkeys that can be read. -/
inductive Reaches (root : Node) (children : Node → Listing Node) : Node → Prop
  | root : Reaches root children root
  | child {n c : Node} (hn : Reaches root children n) (hc : c ∈ Listing.good (children n)) :
    Reaches root children c

/-- A hive as walks and reports see it. -/
structure Source where
  root : Node
  /-- An upper bound for the number of handles of subkeys. -/
  capacity : Nat
  children : Node → Listing Node
  values : Node → Listing Value
  lastModified : Except Fault (Option Int)
  timestamp : Node → Except Fault (Option Int)
  nodeLength : Node → Except Fault Int
  valueLength : Value → Except Fault Int
  /-- Offset and length of the cell that holds a value's payload; both zero if it has none. -/
  dataCell : Value → Except Fault (Int × Int)
  close : Except Fault Unit
  handles_le : ∀ handles : List Int, handles.Nodup →
    (∀ h ∈ handles, ∃ parent, Reaches root children parent ∧
      ∃ child ∈ Listing.good (children parent), child.handle = h) →
    handles.length ≤ capacity

namespace Source

/-- Whether the node is the root. -/
def isRoot (src : Source) (n : Node) : Bool :=
  n.handle == src.root.handle

/-- Whether a walk can come to the node. -/
def Reachable (src : Source) (n : Node) : Prop :=
  Reaches src.root src.children n

end Source

end HiveDump
