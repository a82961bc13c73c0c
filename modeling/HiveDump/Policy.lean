import HiveDump.Fault

/-!
# Error policies

A policy decides what becomes of a fault that does not have to end the run: it raises the fault, or
another one in its place, or it records the fault and lets the run go on. What the run goes on with
is a `Fallback`.

* `failFast` raises every fault;
* `resume` records it, and warns if it is verbose;
* `collect` records it in silence;
* `threshold n` records it and, from the fault after the first `n` on, raises.

A caller may also bring a judge of its own, who tells from the faults so far and the new one what to
raise; then the rule does not count. A judge who raises nothing may answer with a time stamp, which
stands in for one that could not be had.

Main statement: `records_handle` (every policy but `failFast` records every fault it is given, in
order).
-/

namespace HiveDump

/-- The name of an operation that can fail, as warnings and records give it. -/
abbrev Operation := String

namespace Operation

/-- Listing the subkeys of a node. -/
def subkeys : Operation := "get_children"

/-- Listing the values of a node. -/
def values : Operation := "get_values"

/-- Whether the operation lists the entries of a node. -/
def isListing (op : Operation) : Bool :=
  op == subkeys || op == values

end Operation

/-- The listing operation for one of the two lists of a node. -/
def EntryList.operation : EntryList → Operation
  | subkeys => Operation.subkeys
  | values => Operation.values

/-- What an operation was applied to. -/
inductive Target
  | nothing
  | label (text : String)
  | node (n : Node)
  | value (v : Value)
  deriving DecidableEq, Repr

namespace Target

/-- A name and the offset of its cell. -/
def place (name : Option String) (handle : Int) : String :=
  match name with
  | some s => s!"{Quoted.text s}@{handle}"
  | none => s!"@{handle}"

/-- Where a fault happened. -/
def location? : Target → Option String
  | nothing => none
  | label text => some text
  | node n => some (place n.name n.handle)
  | value v => some (place v.key v.handle)

/-- Where a fault happened, in a warning. -/
def inWarning (t : Target) : String :=
  match t.location? with
  | none => "unknown"
  | some "" => "unknown"
  | some text => text

end Target

/-- What a run goes on with after a fault. -/
inductive Fallback
  | nothing
  | noEntries
  deriving DecidableEq, Repr

/-- After a failed listing there are no entries; after anything else there is nothing. -/
def Operation.fallback (op : Operation) : Fallback :=
  if op.isListing then .noEntries else .nothing

/-- How a policy treats faults. -/
inductive Policy.Rule
  | failFast
  | resume (verbose : Bool)
  | collect
  | threshold (limit : Int) (verbose : Bool)
  deriving DecidableEq, Repr

/-- A fault that a policy was given. -/
structure Policy.Entry where
  location : Option String
  operation : Operation
  fault : Fault
  deriving DecidableEq, Repr

/-- What a caller of the program wants done when a policy with these records is given a fault: raise
something, or go on, with a time stamp where one is missing. -/
abbrev Policy.Judge := Array Policy.Entry → Policy.Entry → Except Fault (Option Int)

/-- A policy with the faults it has recorded, oldest first. -/
structure Policy where
  rule : Policy.Rule
  records : Array Policy.Entry := #[]
  /-- Takes the place of the rule. -/
  judge : Option Policy.Judge := none

namespace Policy

/-- The policy that is used where none is chosen. -/
def standard : Policy := { rule := .resume true }

/-- What a policy makes of a fault. -/
structure Handling where
  outcome : Except Fault Fallback
  policy : Policy
  warning : Option String
  /-- The time stamp to go on with where one is missing; a rule has none. -/
  time : Option Int := none

/-- Adds a fault to the records. -/
def record (p : Policy) (fault : Fault) (op : Operation) (target : Target) : Policy :=
  { p with records := p.records.push ⟨target.location?, op, fault⟩ }

/-- Lets a judge decide about a fault. -/
def judged (p : Policy) (judge : Judge) (fault : Fault) (op : Operation) (target : Target) :
    Handling :=
  let verdict := judge p.records ⟨target.location?, op, fault⟩
  { outcome := verdict.map fun _ => op.fallback
    policy := p.record fault op target
    warning := none
    time := verdict.toOption.join }

/-- Does with a fault what the rule says. -/
def ruled (p : Policy) (fault : Fault) (op : Operation) (target : Target) : Handling :=
  match p.rule with
  | .failFast => { outcome := .error fault, policy := p, warning := none }
  | .collect =>
    { outcome := .ok op.fallback, policy := p.record fault op target, warning := none }
  | .resume verbose =>
    let text := s!"WARNING: {op} failed for {target.inWarning}: {fault.message}, continuing"
    { outcome := .ok op.fallback
      policy := p.record fault op target
      warning := if verbose then some text else none }
  | .threshold limit verbose =>
    let count := p.records.size + 1
    let text := s!"WARNING [{count}/{limit}]: {op} failed for {target.inWarning}: {fault.message}"
    if limit < count then
      { outcome := .error (.thresholdExceeded limit fault)
        policy := p.record fault op target
        warning := none }
    else
      { outcome := .ok op.fallback
        policy := p.record fault op target
        warning := if verbose then some text else none }

/-- Hands a fault to the policy. -/
def handle (p : Policy) (fault : Fault) (op : Operation) (target : Target) : Handling :=
  match p.judge with
  | some judge => p.judged judge fault op target
  | none => p.ruled fault op target

/-! ## What a policy can be asked afterwards -/

/-- The number of faults recorded. -/
def count (p : Policy) : Nat :=
  p.records.size

/-- The places of the lists that could not be read in full. -/
def skipped (p : Policy) : List String :=
  p.records.toList.filterMap fun e =>
    if e.operation.isListing then e.location.filter (· ≠ "") else none

/-- The number of recorded faults of a class that satisfies `select`. -/
def countWhere (p : Policy) (select : Fault → Bool) : Nat :=
  (p.records.toList.filter fun e => select e.fault).length

/-- Whether the policy warns of what it records. -/
def Rule.verbose? : Rule → Option Bool
  | .resume verbose => some verbose
  | .threshold _ verbose => some verbose
  | _ => none

/-! ## What becomes of a policy -/

theorem handle_of_judge_none {p : Policy} (h : p.judge = none) (fault : Fault) (op : Operation)
    (target : Target) : p.handle fault op target = p.ruled fault op target := by
  simp [handle, h]

/-- A rule has no time stamp of its own. -/
theorem time_handle (p : Policy) (h : p.judge = none) (fault : Fault) (op : Operation)
    (target : Target) : (p.handle fault op target).time = none := by
  rw [handle_of_judge_none h]
  unfold ruled
  cases p.rule with
  | threshold n v => simp only; split <;> rfl
  | _ => rfl

theorem records_handle (p : Policy) (h : p.judge = none → p.rule ≠ .failFast) (fault : Fault)
    (op : Operation) (target : Target) :
    (p.handle fault op target).policy.records = p.records.push ⟨target.location?, op, fault⟩ := by
  unfold handle
  cases hj : p.judge with
  | some judge => rfl
  | none =>
    unfold ruled record
    cases hr : p.rule with
    | failFast => exact absurd hr (h hj)
    | resume v => simp
    | collect => simp
    | threshold n v => simp only; split <;> rfl

theorem rule_handle (p : Policy) (fault : Fault) (op : Operation) (target : Target) :
    (p.handle fault op target).policy.rule = p.rule := by
  unfold handle
  cases p.judge with
  | some judge => rfl
  | none =>
    unfold ruled record
    cases hr : p.rule with
    | failFast => simpa using hr
    | resume v => simp
    | collect => simp
    | threshold n v => simp only; split <;> rfl

theorem judge_handle (p : Policy) (fault : Fault) (op : Operation) (target : Target) :
    (p.handle fault op target).policy.judge = p.judge := by
  unfold handle
  cases hj : p.judge with
  | some judge => simpa [judged, record] using hj
  | none =>
    unfold ruled record
    cases p.rule with
    | failFast => simpa using hj
    | resume v => simpa using hj
    | collect => simpa using hj
    | threshold n v => simp only; split <;> exact hj

end Policy

end HiveDump
