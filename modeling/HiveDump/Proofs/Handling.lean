import HiveDump.Policy

/-!
# What policies do with faults one after the other

A policy may change with every fault it is given, so what is said of it is said of all it may become
(`Policy.after`): that it lets the run go on at any fault (`NeverRaises`), that it raises something
in place of a fault that could be survived (`Raises`), and that it has a time stamp to go on with at
a fault (`Answers`). Rules have none. A judge may have one, and it may depend on what the policy was
given before, unless the policy is `Steady`.

Results:
* `neverRaises_of_resume`, **`neverRaises_standard`**: recording without a limit never raises;
* **`Raises.judge`**: a fault of the writer is raised by a judge;
* `answersNothing_of_judge_none`: the answers of rules;
* `neverRaises_of_judge`, `steady_of_judge`: judges.
-/

namespace HiveDump

/-- A fault with what a policy is told about it. -/
structure Policy.Submission where
  fault : Fault
  operation : Operation
  target : Target

/-- The policy behind faults that it was given one after the other. -/
def Policy.after (p : Policy) (given : List Policy.Submission) : Policy :=
  given.foldl (fun q g => (q.handle g.fault g.operation g.target).policy) p

namespace Policy

variable {p q : Policy} {given more : List Submission} {raised : Fault}

theorem after_append (p : Policy) (given more : List Submission) :
    p.after (given ++ more) = (p.after given).after more :=
  List.foldl_append

theorem judge_after (p : Policy) (given : List Submission) : (p.after given).judge = p.judge := by
  induction given generalizing p with
  | nil => rfl
  | cons g given ih =>
    change (Policy.after _ given).judge = _
    rw [ih, judge_handle]

theorem rule_after (p : Policy) (given : List Submission) : (p.after given).rule = p.rule := by
  induction given generalizing p with
  | nil => rfl
  | cons g given ih =>
    change (Policy.after _ given).rule = _
    rw [ih, rule_handle]

/-! ## Going on -/

/-- Whether the policy lets the run go on at every fault, whatever it was given before. -/
def NeverRaises (p : Policy) : Prop :=
  ∀ (given : List Submission) (fault : Fault) (op : Operation) (target : Target),
    ∃ fallback, ((p.after given).handle fault op target).outcome = .ok fallback

theorem NeverRaises.outcome (h : p.NeverRaises) (fault : Fault) (op : Operation)
    (target : Target) : ∃ fallback, (p.handle fault op target).outcome = .ok fallback :=
  h [] fault op target

theorem NeverRaises.handle (h : p.NeverRaises) (fault : Fault) (op : Operation)
    (target : Target) : (p.handle fault op target).policy.NeverRaises :=
  fun given => h (⟨fault, op, target⟩ :: given)

theorem NeverRaises.after (h : p.NeverRaises) (given : List Submission) :
    (p.after given).NeverRaises := by
  intro more
  rw [← after_append]
  exact h (given ++ more)

/-- A rule that raises no fault, whatever is recorded, makes a policy that never raises. -/
theorem neverRaises_of_ruled (hj : p.judge = none)
    (h : ∀ q : Policy, q.rule = p.rule → ∀ fault op target,
      ∃ fallback, (q.ruled fault op target).outcome = .ok fallback) : p.NeverRaises := by
  intro given fault op target
  rw [handle_of_judge_none (by rw [judge_after, hj])]
  exact h _ (rule_after p given) fault op target

theorem neverRaises_of_resume {verbose : Bool} (hj : p.judge = none)
    (hr : p.rule = .resume verbose) : p.NeverRaises := by
  refine neverRaises_of_ruled hj fun q hq fault op target => ⟨op.fallback, ?_⟩
  rw [hr] at hq
  simp only [ruled, hq]

/-- **The policy that is used where none is chosen never raises.** -/
theorem neverRaises_standard : standard.NeverRaises :=
  neverRaises_of_resume rfl rfl

/-! ## Raising -/

/-- Whether a policy, behind some faults that it is given, raises something in place of a fault that
can be survived, and becomes `q` by all of these. -/
def Raises (p : Policy) (raised : Fault) (q : Policy) : Prop :=
  ∃ (given : List Submission) (last : Submission), last.fault.isRecoverable = true ∧
    ((p.after given).handle last.fault last.operation last.target).outcome = .error raised ∧
    q = p.after (given ++ [last])

theorem Raises.of_after (h : (p.after given).Raises raised q) : p.Raises raised q := by
  obtain ⟨more, last, hr, houtcome, rfl⟩ := h
  rw [← after_append] at houtcome
  exact ⟨given ++ more, last, hr, houtcome, by rw [← after_append, List.append_assoc]⟩

theorem NeverRaises.not_raises (h : p.NeverRaises) : ¬p.Raises raised q := by
  rintro ⟨given, last, -, houtcome, -⟩
  obtain ⟨fallback, hlets⟩ := (h.after given).outcome last.fault last.operation last.target
  rw [hlets] at houtcome
  cases houtcome

/-- **A fault of the writer is raised by a judge**, if it is raised at all: a rule raises the fault
that it is given, or one that it makes of it. -/
theorem Raises.judge (h : p.Raises raised q) (hkind : raised.kind = .writing) :
    ∃ judge, p.judge = some judge := by
  obtain ⟨given, last, hr, houtcome, -⟩ := h
  cases hjudge : p.judge with
  | some judge => exact ⟨judge, rfl⟩
  | none =>
    rw [handle_of_judge_none ((judge_after p given).trans hjudge)] at houtcome
    unfold ruled at houtcome
    dsimp only at houtcome
    split at houtcome
    case h_1 =>
      obtain rfl := Except.error.inj houtcome
      rw [Fault.isRecoverable, Fault.isProvenance, hkind] at hr
      cases hr
    case h_2 => cases houtcome
    case h_3 => cases houtcome
    case h_4 =>
      split at houtcome
      · obtain rfl := Except.error.inj houtcome
        cases hkind
      · cases houtcome

/-! ## Answering -/

/-- Whether a policy, behind some faults that it is given, has this time stamp to go on with at a
fault. -/
def Answers (p : Policy) (g : Submission) (time : Option Int) : Prop :=
  ∃ given, ((p.after given).handle g.fault g.operation g.target).time = time

theorem Answers.of_after {g : Submission} {time : Option Int}
    (h : (p.after given).Answers g time) : p.Answers g time := by
  obtain ⟨more, htime⟩ := h
  rw [← after_append] at htime
  exact ⟨given ++ more, htime⟩

theorem answers_time (p : Policy) (g : Submission) :
    p.Answers g (p.handle g.fault g.operation g.target).time :=
  ⟨[], rfl⟩

/-- Whether a policy has nothing to go on with. -/
def AnswersNothing (p : Policy) : Prop :=
  ∀ g time, p.Answers g time → time = none

/-- Whether two policies answer a fault in one way, whatever they were given before. -/
def Alike (p q : Policy) : Prop :=
  ∀ g time time', p.Answers g time → q.Answers g time' → time = time'

/-- Whether what a policy answers does not depend on what it was given before. -/
def Steady (p : Policy) : Prop :=
  p.Alike p

theorem Alike.after (h : p.Alike q) (given more : List Submission) :
    (p.after given).Alike (q.after more) :=
  fun g time time' hp hq => h g time time' hp.of_after hq.of_after

/-- **A rule answers nothing.** -/
theorem answersNothing_of_judge_none (hj : p.judge = none) : p.AnswersNothing := by
  rintro g time ⟨given, rfl⟩
  exact time_handle _ ((judge_after p given).trans hj) _ _ _

/-! ## Judges -/

variable {judge : Judge}

/-- A judge that raises nothing. -/
theorem neverRaises_of_judge (hj : p.judge = some judge)
    (h : ∀ records entry, ∃ time, judge records entry = .ok time) : p.NeverRaises := by
  intro given fault op target
  obtain ⟨time, htime⟩ := h (p.after given).records ⟨target.location?, op, fault⟩
  refine ⟨op.fallback, ?_⟩
  rw [handle, (judge_after p given).trans hj]
  exact congrArg (Except.map fun _ => op.fallback) htime

/-- A policy that records every fault and goes on, with this time stamp wherever one is missing. -/
def dated (time : Int) : Policy :=
  { rule := .collect, judge := some fun _ _ => .ok (some time) }

theorem neverRaises_dated (time : Int) : (dated time).NeverRaises :=
  neverRaises_of_judge rfl fun _ _ => ⟨some time, rfl⟩

end Policy

end HiveDump
