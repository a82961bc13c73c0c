import HiveDump.Proofs.Calm
import HiveDump.Proofs.Markup.OpenElements
import HiveDump.Proofs.Report.Yields
import Mathlib.Tactic.Choose

/-!
# The course of a report

What a part of a report does depends on the error policy in two ways only: where a fault is
submitted the policy lets the part go on, with a time stamp or without, or raises something, which
ends it. So a part has a `Course`: a tree with a branch for every answer at each point where a fault
is submitted. Under any policy the part does what its course says up to the first point where the
policy raises (`Course.under`). A rule answers nothing, so all rules follow one line through the
tree (`Course.line`).

`Charts` says that a part has a course and what is known about it: the document only grows along it,
the end tag of `root` is not written, and the part leaves the elements open that it should. A part
that may be given up (`retry`) submits nothing, and a fault that can be survived leaves it with
these elements open.

Results:
* **`under_of_judge_none`**: the line that rules follow;
* **`Charts.bind`**, `Charts.forM`, **`Charts.recover`**: courses are put together;
* `Charts.perform`: what is known of a part under any policy;
* `Sound.line`: what is known of the line of rules.
-/

namespace HiveDump

open HiveDump.Action

/-! ## Courses -/

/-- A fault that is submitted, with the writer and the tally at that point. -/
structure Report.Point where
  given : Policy.Submission
  output : Writer
  tally : Tally

namespace Policy

open Report

/-- Submits faults one after the other, up to the first one where the policy raises something: the
policy behind them, and what is raised where. -/
def meet (p : Policy) : List Point → Policy × Option (Fault × Point)
  | [] => (p, none)
  | pt :: pts =>
    let handling := p.handle pt.given.fault pt.given.operation pt.given.target
    match handling.outcome with
    | .ok _ => handling.policy.meet pts
    | .error raised => (handling.policy, some (raised, pt))

theorem meet_append (p : Policy) (pts pts' : List Point) :
    p.meet (pts ++ pts') = match p.meet pts with
      | (q, none) => q.meet pts'
      | (q, some stop) => (q, some stop) := by
  induction pts generalizing p with
  | nil => rfl
  | cons pt pts ih =>
    rw [List.cons_append, meet, meet]
    cases (p.handle pt.given.fault pt.given.operation pt.given.target).outcome with
    | ok _ => exact ih _
    | error raised => rfl

end Policy

namespace Report

/-- What a part of a report does: it comes to an end, or submits a fault and goes on as the policy
answers. -/
inductive Course (α : Type)
  | ends (result : Except Fault α) (output : Writer) (tally : Tally)
  | submits (pt : Point) (next : Option Int → Course α)

/-- What a part of a report does while no policy raises or answers anything. -/
structure Line (α : Type) where
  points : List Point
  result : Except Fault α
  output : Writer
  tally : Tally

variable {α β : Type}

/-- What comes of a course under a policy. -/
def Course.under : Course α → Policy → Array Diagnostic → Except Fault α × Session Writer
  | ends result output tally, p, ds => (result, ⟨output, p, tally, ds⟩)
  | submits pt next, p, ds =>
    let handling := p.handle pt.given.fault pt.given.operation pt.given.target
    match handling.outcome with
    | .ok _ => (next handling.time).under handling.policy ds
    | .error raised => (.error raised, ⟨pt.output, handling.policy, pt.tally, ds⟩)

/-- The line of a course along which nothing is answered. -/
def Course.line : Course α → Line α
  | ends result output tally => ⟨[], result, output, tally⟩
  | submits pt next => { (next none).line with points := pt :: (next none).line.points }

/-- What comes of a line under a policy. -/
def Line.under (l : Line α) (p : Policy) (ds : Array Diagnostic) :
    Except Fault α × Session Writer :=
  match p.meet l.points with
  | (q, none) => (l.result, ⟨l.output, q, l.tally, ds⟩)
  | (q, some (raised, pt)) => (.error raised, ⟨pt.output, q, pt.tally, ds⟩)

/-- Whether a part follows a course, whatever the policy and the diagnostics. -/
def Follows (act : Action Writer α) (w : Writer) (tally : Tally) (c : Course α) : Prop :=
  ∀ p ds, ∃ ds', act.perform ⟨w, p, tally, ds⟩ = c.under p ds'

variable {act : Action Writer α} {next : α → Action Writer β} {w w' : Writer} {tally tally' : Tally}
  {c : Course α} {fault : Fault}

/-- **All rules follow one line.** -/
theorem Course.under_of_judge_none (c : Course α) {p : Policy} (hj : p.judge = none)
    (ds : Array Diagnostic) : c.under p ds = c.line.under p ds := by
  induction c generalizing p with
  | ends result output tally => rfl
  | submits pt next ih =>
    rw [under, line, Line.under, Policy.meet, Policy.time_handle p hj]
    cases (p.handle pt.given.fault pt.given.operation pt.given.target).outcome with
    | ok _ => exact ih none ((Policy.judge_handle _ _ _ _).trans hj)
    | error raised => rfl

/-- A policy keeps its judge. -/
theorem Course.judge_under (c : Course α) (p : Policy) (ds : Array Diagnostic) :
    (c.under p ds).2.policy.judge = p.judge := by
  induction c generalizing p with
  | ends result output tally => rfl
  | submits pt next ih =>
    rw [under]
    cases (p.handle pt.given.fault pt.given.operation pt.given.target).outcome with
    | ok _ => exact (ih _ _).trans (Policy.judge_handle _ _ _ _)
    | error raised => exact Policy.judge_handle _ _ _ _

/-! ## What is known about a course -/

open Writer

/-- What is known about a course that starts at a writer. -/
inductive Sound (root : String) (retry : Option (List String)) (after : α → List String) :
    Writer → Course α → Prop
  | ends {w output : Writer} {tally : Tally} {result : Except Fault α}
    (grows : Continues w output) (unclosed : Unclosed root w → Unclosed root output)
    (names : ∀ a, result = .ok a → Names (after a) output)
    (back : ∀ ns fault, retry = some ns → result = .error fault → fault.isRecoverable = true →
      Names ns output) : Sound root retry after w (.ends result output tally)
  | submits {w : Writer} {pt : Point} {next : Option Int → Course α} (once : retry = none)
    (grows : Continues w pt.output) (unclosed : Unclosed root w → Unclosed root pt.output)
    (hnext : ∀ time, Sound root retry after pt.output (next time)) :
    Sound root retry after w (.submits pt next)

/-- Whether a part that starts with the elements `before` open has a course, and leaves the elements
`after` open if it succeeds. -/
def Charts (root : String) (retry : Option (List String)) (before : List String)
    (act : Action Writer α) (after : α → List String) : Prop :=
  ∀ w tally, Names before w → ∃ c, Follows act w tally c ∧ Sound root retry after w c

variable {root : String} {retry : Option (List String)} {before ns : List String}
  {mid : α → List String} {after : β → List String}

/-- A course behind calls to the writer. -/
theorem Sound.behind (h : Sound root retry mid w' c) (grows : Continues w w')
    (unclosed : Unclosed root w → Unclosed root w') : Sound root retry mid w c := by
  cases h with
  | ends hgrows hunclosed names back =>
    exact .ends (grows.trans hgrows) (fun hw => hunclosed (unclosed hw)) names back
  | submits once hgrows hunclosed hnext =>
    exact .submits once (grows.trans hgrows) (fun hw => hunclosed (unclosed hw)) hnext

/-- A course with what follows it at its ends. -/
theorem Sound.exists_then (h : Sound root retry mid w c)
    (hnext : ∀ a, Charts root retry (mid a) (next a) after) :
    ∃ d, Sound root retry after w d ∧ ∀ p ds, ∃ ds', (match c.under p ds with
      | (.ok a, t) => (next a).perform t
      | (.error fault, t) => (.error fault, t)) = d.under p ds' := by
  induction h with
  | @ends w output tally result grows unclosed names back =>
    cases result with
    | error fault =>
      exact ⟨.ends (.error fault) output tally, .ends grows unclosed (fun _ hb => nomatch hb)
        fun ns other hns hf => back ns other hns (congrArg _ (Except.error.inj hf)),
        fun p ds => ⟨ds, rfl⟩⟩
    | ok a =>
      obtain ⟨d, hfollows, hd⟩ := hnext a output tally (names a rfl)
      exact ⟨d, hd.behind grows unclosed, hfollows⟩
  | @submits w pt branch once grows unclosed _ ih =>
    choose d hd hperform using ih
    refine ⟨.submits pt d, .submits once grows unclosed hd, fun p ds => ?_⟩
    simp only [Course.under]
    cases (p.handle pt.given.fault pt.given.operation pt.given.target).outcome with
    | ok _ => exact hperform _ _ ds
    | error raised => exact ⟨ds, rfl⟩

/-- **One part behind another.** -/
theorem Charts.bind (h : Charts root retry before act mid)
    (hnext : ∀ a, Charts root retry (mid a) (next a) after) :
    Charts root retry before (act >>= next) after := by
  intro w tally hw
  obtain ⟨c, hfollows, hc⟩ := h w tally hw
  obtain ⟨d, hd, hperform⟩ := hc.exists_then hnext
  refine ⟨d, fun p ds => ?_, hd⟩
  obtain ⟨ds', hact⟩ := hfollows p ds
  obtain ⟨ds'', hthen⟩ := hperform p ds'
  refine ⟨ds'', ?_⟩
  rw [perform_bind, hact, ← hthen]
  rcases c.under p ds' with ⟨_ | a, t⟩ <;> rfl

/-- A part that asks no policy. -/
theorem follows_ends {result : Except Fault α}
    (h : ∀ p ds, ∃ ds', act.perform ⟨w, p, tally, ds⟩ = (result, ⟨w', p, tally', ds'⟩)) :
    Follows act w tally (.ends result w' tally') :=
  h

/-- A course that ends where it starts. -/
theorem sound_stay {result : Except Fault α} {mid : α → List String}
    (hok : ∀ a, result = .ok a → Names (mid a) w)
    (herror : ∀ ns fault, retry = some ns → result = .error fault →
      fault.isRecoverable = true → Names ns w) :
    Sound root retry mid w (.ends result w tally') :=
  .ends (.refl w) id hok herror

/-- A part that writes nothing and does not fail. -/
theorem charts_silent {last : α → List String} (result : Tally → α) (change : Tally → Tally)
    (hlast : ∀ tally, last (result tally) = ns)
    (h : ∀ w p tally ds, ∃ ds',
      act.perform ⟨w, p, tally, ds⟩ = (.ok (result tally), ⟨w, p, change tally, ds'⟩)) :
    Charts root retry ns act last := by
  intro w tally hw
  refine ⟨.ends (.ok (result tally)) w (change tally),
    follows_ends fun p ds => h w p tally ds, sound_stay ?_ ?_⟩
  · rintro _ ⟨⟩
    rwa [hlast]
  · exact fun _ _ _ hf => nomatch hf

theorem charts_return {last : α → List String} {a : α} (h : last a = ns) :
    Charts root retry ns (pure a) last :=
  charts_silent (fun _ => a) id (fun _ => h) fun _ _ _ ds => ⟨ds, rfl⟩

theorem charts_pure (a : α) : Charts root retry ns (pure a) fun _ => ns :=
  charts_return rfl

/-- A part that is given up with the same elements open. -/
def Returns (retry : Option (List String)) (ns : List String) : Prop :=
  ∀ b, retry = some b → b = ns

theorem returns_none : Returns none ns :=
  fun _ h => nomatch h

theorem returns_some : Returns (some ns) ns :=
  fun _ h => (Option.some.inj h).symm

/-- A fault that can be survived leaves the elements open that it should. -/
theorem charts_fail {mid : α → List String} (h : fault.isRecoverable = true → Returns retry ns) :
    Charts root retry ns (throw fault) mid := by
  intro w tally hw
  refine ⟨.ends (.error fault) w tally, follows_ends fun p ds => ⟨ds, rfl⟩, sound_stay ?_ ?_⟩
  · exact fun _ hb => nomatch hb
  · intro b _ hb hf hr
    cases hf
    exact h hr b hb ▸ hw

/-- A fault that cannot be survived may be raised anywhere. -/
theorem charts_throw {mid : α → List String} (hr : fault.isRecoverable = false) :
    Charts root retry ns (throw fault) mid :=
  charts_fail fun hr' => absurd hr' (by simp [hr])

theorem charts_raise {mid : α → List String} (hback : Returns retry ns) (fault : Fault) :
    Charts root retry ns (throw fault) mid :=
  charts_fail fun _ => hback

theorem charts_ask (hback : Returns retry ns) (answer : Except Fault α) (wrap : Fault → Fault) :
    Charts root retry ns (ask answer wrap) fun _ => ns := by
  cases answer with
  | ok a => exact charts_pure a
  | error fault => exact charts_raise hback _

theorem charts_log (line : LogLine) : Charts root retry ns (log line) fun _ => ns :=
  charts_silent (fun _ => ()) id (fun _ => rfl) fun _ _ _ _ => ⟨_, rfl⟩

theorem charts_count (change : Tally → Tally) :
    Charts root retry ns (count change) fun _ => ns :=
  charts_silent (fun _ => ()) change (fun _ => rfl) fun _ _ _ _ => ⟨_, rfl⟩

/-- A call to the writer; no failure of one can be survived. -/
theorem charts_write {call : Writing α} {mid : α → List String}
    (h : Keeps root (Names before) call fun a => Names (mid a)) :
    Charts root retry before (Action.write call) mid := by
  intro w tally hw
  obtain ⟨hgrows, hopen, hok⟩ := h w hw
  refine ⟨.ends ((w.call call).1.mapError .write) (w.call call).2 tally,
    follows_ends fun p ds => ⟨ds, perform_write call _⟩, .ends hgrows hopen
      (fun a ha => hok a (Failing.mapError_eq_ok.mp ha)) fun _ fault _ hf hr => ?_⟩
  obtain ⟨cause, -, rfl⟩ := Failing.mapError_eq_error.mp hf
  cases cause <;> cases hr

theorem Charts.map {f : α → β} (h : Charts root retry before act fun a => after (f a)) :
    Charts root retry before (f <$> act) after := by
  rw [map_eq_pure_bind]
  exact h.bind fun a => charts_return rfl

theorem Charts.discard {last : List String} (h : Charts root retry before act fun _ => last) :
    Charts root retry before (discard act) fun _ => last :=
  h.map

/-- **A part whose failure may be survived** leaves the same elements open in any case. -/
theorem Charts.recover (h : Charts root (some ns) ns act fun _ => ns) (op : Operation)
    (target : Target) (goOn : Option Int → α) :
    Charts root none ns (recover op target goOn act) fun _ => ns := by
  intro w tally hw
  obtain ⟨c, hfollows, hc⟩ := h w tally hw
  cases hc with
  | submits once => cases once
  | @ends _ output tally' result grows unclosed names back =>
    have hends {result' : Except Fault α} (hnames : ∀ a, result' = .ok a → Names ns output) :
        Sound root none (fun _ => ns) w (.ends result' output tally') :=
      .ends grows unclosed hnames fun _ _ hns => nomatch hns
    cases result with
    | ok a =>
      refine ⟨.ends (.ok a) output tally', fun p ds => ?_, hends names⟩
      obtain ⟨ds', hact⟩ := hfollows p ds
      exact ⟨ds', by rw [perform_recover, hact]; rfl⟩
    | error fault =>
      by_cases hr : fault.isRecoverable = true
      · have hback : Names ns output := back ns fault rfl rfl hr
        refine ⟨.submits ⟨⟨fault, op, target⟩, output, tally'⟩ fun time =>
          .ends (.ok (goOn time)) output tally', fun p ds => ?_, ?_⟩
        · obtain ⟨ds', hact⟩ := hfollows p ds
          rw [perform_recover, hact]
          simp only [Course.under, if_pos hr]
          cases (p.handle fault op target).outcome <;> exact ⟨_, rfl⟩
        · exact .submits rfl grows unclosed fun _ => sound_stay (fun _ _ => hback) nofun
      · refine ⟨.ends (.error fault) output tally', fun p ds => ?_, hends nofun⟩
        obtain ⟨ds', hact⟩ := hfollows p ds
        exact ⟨ds', by rw [perform_recover, hact]; exact if_neg hr⟩

theorem Charts.attempt (h : Charts root (some ns) ns act fun _ => ns) (op : Operation)
    (target : Target) : Charts root none ns (attempt op target act) fun _ => ns :=
  h.discard.recover op target _

/-- A fault that is submitted where nothing is given up. -/
theorem charts_consult (fault : Fault) (op : Operation) (target : Target) :
    Charts root none ns (consult fault op target) fun _ => ns := by
  intro w tally hw
  refine ⟨.submits ⟨⟨fault, op, target⟩, w, tally⟩ fun time => .ends (.ok time) w tally,
    fun p ds => ?_, .submits rfl (.refl w) id fun _ => sound_stay (fun _ _ => hw) nofun⟩
  simp only [perform_consult, Course.under]
  cases (p.handle fault op target).outcome <;> exact ⟨_, rfl⟩

theorem charts_submit (fault : Fault) (op : Operation) (target : Target) :
    Charts root none ns (submit fault op target) fun _ => ns :=
  (charts_consult fault op target).discard

/-- Parts of a sequence. -/
theorem Charts.forM {f : β → Action Writer Unit} {bs : List β}
    (h : ∀ b ∈ bs, Charts root retry ns (f b) fun _ => ns) :
    Charts root retry ns (bs.forM f) fun _ => ns := by
  induction bs with
  | nil => exact charts_pure ()
  | cons b bs ih =>
    obtain ⟨hb, hbs⟩ := List.forall_mem_cons.mp h
    exact hb.bind fun _ => ih hbs

/-! ## What comes of a part -/

/-- Along a course the document only grows, wherever the policy raises something. -/
theorem Sound.under (h : Sound root retry mid w c) (p : Policy) (ds : Array Diagnostic) :
    Continues w (c.under p ds).2.output ∧
      (Unclosed root w → Unclosed root (c.under p ds).2.output) ∧
      ∀ a, (c.under p ds).1 = .ok a → Names (mid a) (c.under p ds).2.output := by
  induction h generalizing p with
  | ends grows unclosed names back => exact ⟨grows, unclosed, names⟩
  | @submits w pt branch once grows unclosed _ ih =>
    rw [Course.under]
    cases (p.handle pt.given.fault pt.given.operation pt.given.target).outcome with
    | error raised => exact ⟨grows, unclosed, fun _ ha => nomatch ha⟩
    | ok _ =>
      obtain ⟨hgrows, hunclosed, hnames⟩ := ih (p.handle _ _ _).time (p.handle _ _ _).policy
      exact ⟨grows.trans hgrows, fun hw => hunclosed (unclosed hw), hnames⟩

/-- **Whatever the policy does**, the document only grows, and not by the end tag of the root. -/
theorem Charts.perform {last : α → List String} (h : Charts root retry before act last)
    (s : Session Writer) (hs : Names before s.output) :
    Continues s.output (act.perform s).2.output ∧
      (Unclosed root s.output → Unclosed root (act.perform s).2.output) ∧
      ∀ a, (act.perform s).1 = .ok a → Names (last a) (act.perform s).2.output := by
  obtain ⟨c, hfollows, hc⟩ := h s.output s.tally hs
  obtain ⟨ds, hact⟩ := hfollows s.policy s.diagnostics
  rw [show act.perform s = c.under s.policy ds from hact]
  exact hc.under s.policy ds

/-- A policy keeps its judge. -/
theorem Charts.judge {last : α → List String} (h : Charts root retry before act last)
    (s : Session Writer) (hs : Names before s.output) :
    (act.perform s).2.policy.judge = s.policy.judge := by
  obtain ⟨c, hfollows, -⟩ := h s.output s.tally hs
  obtain ⟨ds, hact⟩ := hfollows s.policy s.diagnostics
  rw [show act.perform s = c.under s.policy ds from hact, c.judge_under]

/-- **The line of rules**: its points are in the document, in order, and it leaves open what it
should. -/
theorem Sound.line (h : Sound root retry mid w c) :
    Continues w c.line.output ∧ (∀ pt ∈ c.line.points, Continues pt.output c.line.output) ∧
      ∀ a, c.line.result = .ok a → Names (mid a) c.line.output := by
  induction h with
  | ends grows unclosed names back => exact ⟨grows, fun _ hpt => (nomatch hpt), names⟩
  | submits once grows unclosed _ ih =>
    obtain ⟨hgrows, hpoints, hnames⟩ := ih none
    exact ⟨grows.trans hgrows, List.forall_mem_cons.mpr ⟨hgrows, hpoints⟩, hnames⟩

end Report

end HiveDump
