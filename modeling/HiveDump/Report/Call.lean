import HiveDump.Report.Element

/-!
# Calls of a report in any order

A walk enters and leaves nodes in an order of its own, and shows every value in the step for its
shape. A report can be called in any other order, and any step can be given any value: each call is
made where the calls before it have left the session, whether they failed or not.

The types of payloads are those that a step can show: `Shape.Takes` for what it is given, and
`Value.Typed` for what it finds in a value.
-/

namespace HiveDump

/-- Whether a payload is of the type that a step shows. Only a single text may be missing. -/
def Shape.Takes (shape : Shape) (p : Payload) : Prop :=
  match shape with
  | .string => p = .absent ∨ ∃ s, p = .text s
  | .strings => ∃ ss, p = .texts ss
  | .dword | .qword => ∃ n, p = .number n
  | .badString | .binary | .none | .other => ∃ b, p = .bytes b

/-- Whether a value holds for its shape what the step for it shows. A list of texts that is missing
has no entries. -/
def Value.Typed (v : Value) : Prop :=
  ∀ shape p, v.presentation = .ok (shape, p) →
    shape.Takes p ∧ (shape = .strings → v.data = .absent ∨ shape.Takes v.data)

/-- A call of a report. -/
inductive ReportCall
  | enter (n : Node)
  | leave (n : Node)
  | value (v : Value)
  /-- A value that is given to a step, with the payload to show. -/
  | present (shape : Shape) (v : Value) (p : Payload)

namespace ReportCall

/-- What a call does. -/
def act (src : Source) : ReportCall → Action Writer Unit
  | enter n => Report.nodeStart src n
  | leave _ => Report.nodeEnd
  | value v => Report.value src v
  | present shape v p => Report.present src shape v p

/-- Whether a call enters a node. -/
def isEnter : ReportCall → Bool
  | enter _ => true
  | _ => false

/-- Whether a call leaves a node. -/
def isLeave : ReportCall → Bool
  | leave _ => true
  | _ => false

/-- Whether the payload of a call is of the right type. -/
def Typed : ReportCall → Prop
  | value v => v.Typed
  | present shape _ p => shape.Takes p
  | enter _ | leave _ => True

end ReportCall

namespace Report

/-- The session behind calls, each made whether or not those before it failed. -/
def afterEach (src : Source) (s : Session Writer) (calls : List ReportCall) : Session Writer :=
  calls.foldl (fun t c => ((c.act src).perform t).2) s

/-- Whether no node is left more often than nodes were entered, at any point of the calls. -/
def NeverBelow (calls : List ReportCall) : Prop :=
  ∀ front, front <+: calls → front.countP (·.isLeave) ≤ front.countP (·.isEnter)

end Report

end HiveDump
