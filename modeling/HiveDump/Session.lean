import HiveDump.Diagnostic
import HiveDump.Policy

/-!
# Sessions

A run works on a `Session`: its output, the error policy, the tally of what was walked, and the
diagnostics so far. An `Action` changes a session and may fail; a failed action keeps what it has
changed, so a run that stops midway still shows its document, its records and its tally.
-/

namespace HiveDump

/-- How many nodes and values were visited, and how many entries skipped. -/
structure Tally where
  nodes : Nat := 0
  values : Nat := 0
  skipped : Nat := 0
  deriving DecidableEq, Repr

/-- The state of a run whose output has type `δ`. -/
structure Session (δ : Type) where
  output : δ
  policy : Policy
  tally : Tally := {}
  diagnostics : Array Diagnostic := #[]

/-- A step of a run. -/
abbrev Action (δ α : Type) := ExceptT Fault (StateM (Session δ)) α

namespace Action

variable {δ α β : Type}

/-- The result of a step and the session behind it. -/
def perform (act : Action δ α) (s : Session δ) : Except Fault α × Session δ :=
  act.run.run s

/-- Adds a diagnostic. -/
def tell (d : Diagnostic) : Action δ Unit :=
  modify fun s => { s with diagnostics := s.diagnostics.push d }

/-- Adds a log line. -/
def log (line : LogLine) : Action δ Unit :=
  tell (.log line)

/-- Adds a log line for tracing. -/
def debug (channel : Channel) (message : String) : Action δ Unit :=
  log ⟨.debug, channel, message⟩

/-- Changes the tally. -/
def count (change : Tally → Tally) : Action δ Unit :=
  modify fun s => { s with tally := change s.tally }

/-- Hands a fault to the session's policy, which may raise it. The answer is the time stamp to go on
with where one is missing. -/
def consult (fault : Fault) (op : Operation) (target : Target) : Action δ (Option Int) := do
  let handling := (← get).policy.handle fault op target
  modify fun s => { s with policy := handling.policy }
  match handling.warning with
  | some text => tell (.warning text)
  | none => pure ()
  match handling.outcome with
  | .ok _ => return handling.time
  | .error raised => throw raised

/-- Hands a fault to the session's policy where no time stamp is missing. -/
def submit (fault : Fault) (op : Operation) (target : Target) : Action δ Unit :=
  discard <| consult fault op target

/-! ## What steps do -/

@[simp] theorem perform_pure (a : α) (s : Session δ) :
    perform (pure a) s = (.ok a, s) := rfl

@[simp] theorem perform_throw (fault : Fault) (s : Session δ) :
    perform (throw fault : Action δ α) s = (.error fault, s) := rfl

@[simp] theorem perform_get (s : Session δ) : perform (get : Action δ _) s = (.ok s, s) := rfl

@[simp] theorem perform_set (t s : Session δ) : perform (set t : Action δ _) s = (.ok ⟨⟩, t) := rfl

@[simp] theorem perform_modify (change : Session δ → Session δ) (s : Session δ) :
    perform (modify change : Action δ _) s = (.ok ⟨⟩, change s) := rfl

theorem perform_bind (x : Action δ α) (f : α → Action δ β) (s : Session δ) :
    perform (x >>= f) s = match perform x s with
      | (.ok a, t) => perform (f a) t
      | (.error fault, t) => (.error fault, t) := by
  change ExceptT.bindCont f (perform x s).1 (perform x s).2 = _
  rcases perform x s with ⟨_ | a, t⟩ <;> rfl

theorem perform_bind_of_ok {x : Action δ α} {f : α → Action δ β} {s t : Session δ} {a : α}
    (h : perform x s = (.ok a, t)) : perform (x >>= f) s = perform (f a) t := by
  rw [perform_bind, h]

theorem perform_bind_of_error {x : Action δ α} {f : α → Action δ β} {s t : Session δ}
    {fault : Fault} (h : perform x s = (.error fault, t)) :
    perform (x >>= f) s = (.error fault, t) := by
  rw [perform_bind, h]

theorem perform_map (f : α → β) (x : Action δ α) (s : Session δ) :
    perform (f <$> x) s = ((perform x s).1.map f, (perform x s).2) := by
  rw [map_eq_pure_bind, perform_bind]
  rcases perform x s with ⟨_ | a, t⟩ <;> rfl

theorem discard_eq (x : Action δ α) : (discard x : Action δ Unit) = x >>= fun _ => pure () := by
  rw [bind_pure_comp]
  rfl

theorem perform_discard (x : Action δ α) (s : Session δ) :
    perform (discard x) s = ((perform x s).1.map fun _ => (), (perform x s).2) := by
  rw [discard_eq, perform_bind]
  rcases perform x s with ⟨_ | a, t⟩ <;> rfl

theorem perform_tryCatch (x : Action δ α) (handler : Fault → Action δ α) (s : Session δ) :
    perform (tryCatch x handler) s = match perform x s with
      | (.ok a, t) => (.ok a, t)
      | (.error fault, t) => perform (handler fault) t := by
  change (ExceptT.tryCatch x handler).run.run s = _
  simp only [ExceptT.tryCatch, ExceptT.run_mk, StateT.run_bind]
  rcases hx : perform x s with ⟨_ | a, t⟩
  · change StateT.run x s = _ at hx
    rw [hx]
    rfl
  · change StateT.run x s = _ at hx
    rw [hx]
    rfl

@[simp] theorem perform_tell (d : Diagnostic) (s : Session δ) :
    perform (tell d) s = (.ok ⟨⟩, { s with diagnostics := s.diagnostics.push d }) := rfl

@[simp] theorem perform_log (line : LogLine) (s : Session δ) :
    perform (log line) s = (.ok ⟨⟩, { s with diagnostics := s.diagnostics.push (.log line) }) := rfl

@[simp] theorem perform_debug (channel : Channel) (message : String) (s : Session δ) :
    perform (debug channel message) s =
      (.ok ⟨⟩, { s with diagnostics := s.diagnostics.push (.log ⟨.debug, channel, message⟩) }) :=
  rfl

@[simp] theorem perform_count (change : Tally → Tally) (s : Session δ) :
    perform (count change) s = (.ok ⟨⟩, { s with tally := change s.tally }) := rfl

/-- The diagnostics behind a fault that was submitted. -/
def warned (s : Session δ) (handling : Policy.Handling) : Array Diagnostic :=
  match handling.warning with
  | some text => s.diagnostics.push (.warning text)
  | none => s.diagnostics

/-- Consulting the policy changes it and the diagnostics, and fails if the policy raises. -/
theorem perform_consult (fault : Fault) (op : Operation) (target : Target) (s : Session δ) :
    perform (consult fault op target) s =
      ((s.policy.handle fault op target).outcome.map fun _ =>
          (s.policy.handle fault op target).time,
        { s with
          policy := (s.policy.handle fault op target).policy
          diagnostics := warned s (s.policy.handle fault op target) }) := by
  unfold consult warned
  simp only [perform_bind, perform_get, perform_modify]
  cases (s.policy.handle fault op target).warning <;>
    cases (s.policy.handle fault op target).outcome <;> rfl

/-- Submitting a fault does the same, with nothing to go on with. -/
theorem perform_submit (fault : Fault) (op : Operation) (target : Target) (s : Session δ) :
    perform (submit fault op target) s =
      ((s.policy.handle fault op target).outcome.map fun _ => (),
        { s with
          policy := (s.policy.handle fault op target).policy
          diagnostics := warned s (s.policy.handle fault op target) }) := by
  rw [submit, perform_discard, perform_consult]
  cases (s.policy.handle fault op target).outcome <;> rfl

@[simp] theorem perform_forM_nil (f : α → Action δ Unit) (s : Session δ) :
    perform ([].forM f) s = (.ok (), s) := rfl

theorem perform_forM_cons (a : α) (as : List α) (f : α → Action δ Unit) (s : Session δ) :
    perform ((a :: as).forM f) s = match perform (f a) s with
      | (.ok _, t) => perform (as.forM f) t
      | (.error fault, t) => (.error fault, t) := by
  simp only [List.forM_eq_forM, List.forM_cons, perform_bind]
  rcases perform (f a) s with ⟨_ | _, t⟩ <;> rfl

theorem perform_forM_append (as bs : List α) (f : α → Action δ Unit) (s : Session δ) :
    perform ((as ++ bs).forM f) s = match perform (as.forM f) s with
      | (.ok _, t) => perform (bs.forM f) t
      | (.error fault, t) => (.error fault, t) := by
  induction as generalizing s with
  | nil => rfl
  | cons a as ih =>
    rw [List.cons_append, perform_forM_cons, perform_forM_cons]
    rcases perform (f a) s with ⟨_ | _, t⟩
    · rfl
    · exact ih t

end Action

end HiveDump
