import HiveDump.Markup.Tree

/-!
# The grammar of a report

What stands inside what in a document that shows a hive:

* a hive has a time stamp, if any, and the node of its root;
* a node has a time stamp and byte runs, each if any, then its values, then the nodes below it;
* a value has texts, if it is a list of texts, and byte runs, if any;
* byte runs are one or two.

The outermost node is marked as the root, and no other node is.
-/

namespace HiveDump.Report

open Markup

/-- One tree of a sort, or none. -/
def AtMostOne (sort : Tree → Prop) (ts : List Tree) : Prop :=
  ts = [] ∨ ∃ t, ts = [t] ∧ sort t

/-- A time stamp. -/
def IsTime (t : Tree) : Prop :=
  ∃ text, t = .element "mtime" [] [.text text]

/-- A byte run. -/
def IsByteRun (t : Tree) : Prop :=
  ∃ offset length : Int, t = .element "byte_run"
    [⟨"file_offset", toString offset⟩, ⟨"len", toString length⟩] []

/-- The byte runs of a node or value. -/
def IsByteRuns (t : Tree) : Prop :=
  ∃ runs, t = .element "byte_runs" [] runs ∧ (runs.length = 1 ∨ runs.length = 2) ∧
    ∀ run ∈ runs, IsByteRun run

/-- A text of a list of texts. -/
def IsText (t : Tree) : Prop :=
  ∃ attributes, t = .element "string" attributes []

/-- The mark of the outermost node. -/
def rootMark : Attribute := ⟨"root", "1"⟩

/-- The mark of a list of texts. -/
def listMark : Attribute := ⟨"type", "string-list"⟩

/-- A value. -/
def IsValue (t : Tree) : Prop :=
  ∃ attributes texts runs, t = .element "value" attributes (texts ++ runs) ∧
    (∀ s ∈ texts, IsText s) ∧ AtMostOne IsByteRuns runs ∧
    (texts ≠ [] → listMark ∈ attributes)

/-- A node, the outermost one or another. -/
inductive IsNode : (outermost : Bool) → Tree → Prop
  | node {outermost : Bool} {attributes : List Attribute} {time runs values nodes : List Tree}
    (htime : AtMostOne IsTime time) (hruns : AtMostOne IsByteRuns runs)
    (hvalues : ∀ v ∈ values, IsValue v) (hnodes : ∀ n ∈ nodes, IsNode false n)
    (hmark : outermost = true → rootMark ∈ attributes)
    (hno : outermost = false → ∀ a ∈ attributes, a.name ≠ rootMark.name) :
    IsNode outermost (.element "node" attributes (time ++ runs ++ values ++ nodes))

/-- A hive. -/
def IsHive (t : Tree) : Prop :=
  ∃ time node, t = .element "hive" [] (time ++ [node]) ∧ AtMostOne IsTime time ∧
    IsNode true node

end HiveDump.Report
