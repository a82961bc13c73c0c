import HiveDump.Report.Element

/-!
# Parts of a report and the writer

`Yields` says what a part of a report does to the writer: from every writer that satisfies `pre` it
succeeds and leaves one that satisfies `post`, or fails and leaves one that satisfies `fail`. The
policy, the tally and the diagnostics of the session may be any, and change as they like.

Results:
* **`Yields.bind`**, `Yields.imp`: parts are put together;
* `Yields.call`, `Yields.write`: a call to the writer, and one that succeeds;
* **`Yields.recover`**, `Yields.attempt`: a part whose failure may be survived, if it fails before it
  writes anything.
-/

namespace HiveDump.Report

open HiveDump.Action

variable {α β : Type}

/-- What a part of a report does to the writer. -/
def Yields (pre : Writer → Prop) (act : Action Writer α) (post : α → Writer → Prop)
    (fail : Writer → Prop) : Prop :=
  ∀ s : Session Writer, pre s.output →
    (∃ a t, act.perform s = (.ok a, t) ∧ post a t.output) ∨
      ∃ fault t, act.perform s = (.error fault, t) ∧ fail t.output

variable {pre pre' fail fail' : Writer → Prop} {post post' : α → Writer → Prop}
  {act : Action Writer α}

theorem Yields.imp (h : Yields pre act post fail) (hpre : ∀ w, pre' w → pre w)
    (hpost : ∀ a w, post a w → post' a w) (hfail : ∀ w, fail w → fail' w) :
    Yields pre' act post' fail' := by
  intro s hs
  rcases h s (hpre _ hs) with ⟨a, t, ht, ha⟩ | ⟨fault, t, ht, hf⟩
  · exact .inl ⟨a, t, ht, hpost a _ ha⟩
  · exact .inr ⟨fault, t, ht, hfail _ hf⟩

theorem Yields.imp_pre (h : Yields pre act post fail) (hpre : ∀ w, pre' w → pre w) :
    Yields pre' act post fail :=
  h.imp hpre (fun _ _ hw => hw) fun _ hw => hw

theorem Yields.imp_post (h : Yields pre act post fail) (hpost : ∀ a w, post a w → post' a w) :
    Yields pre act post' fail :=
  h.imp (fun _ hw => hw) hpost fun _ hw => hw

theorem Yields.imp_fail (h : Yields pre act post fail) (hfail : ∀ w, fail w → fail' w) :
    Yields pre act post fail' :=
  h.imp (fun _ hw => hw) (fun _ _ hw => hw) hfail

theorem Yields.pure {a : α} (h : ∀ w, pre w → post a w) : Yields pre (pure a) post fail :=
  fun s hs => .inl ⟨a, s, rfl, h _ hs⟩

theorem Yields.throw {fault : Fault} (h : ∀ w, pre w → fail w) :
    Yields pre (throw fault) post fail :=
  fun s hs => .inr ⟨fault, s, rfl, h _ hs⟩

theorem Yields.of_exists {ι : Sort _} {each : ι → Writer → Prop}
    (h : ∀ i, Yields (each i) act post fail) : Yields (fun w => ∃ i, each i w) act post fail := by
  rintro s ⟨i, hs⟩
  exact h i s hs

theorem Yields.of_and {p : Prop} (h : p → Yields pre act post fail) :
    Yields (fun w => p ∧ pre w) act post fail := by
  rintro s ⟨hp, hs⟩
  exact h hp s hs

/-- One part behind another. -/
theorem Yields.bind {next : α → Action Writer β} {last : β → Writer → Prop}
    (h : Yields pre act post fail) (hnext : ∀ a, Yields (post a) (next a) last fail) :
    Yields pre (act >>= next) last fail := by
  intro s hs
  rw [perform_bind]
  rcases h s hs with ⟨a, t, ht, ha⟩ | ⟨fault, t, ht, hf⟩
  · rw [ht]
    exact hnext a t ha
  · rw [ht]
    exact .inr ⟨fault, t, rfl, hf⟩

theorem Yields.map {f : α → β} {last : β → Writer → Prop} (h : Yields pre act post fail)
    (hpost : ∀ a w, post a w → last (f a) w) : Yields pre (f <$> act) last fail := by
  intro s hs
  rw [perform_map]
  rcases h s hs with ⟨a, t, ht, ha⟩ | ⟨fault, t, ht, hf⟩
  · rw [ht]
    exact .inl ⟨f a, t, rfl, hpost a _ ha⟩
  · rw [ht]
    exact .inr ⟨fault, t, rfl, hf⟩

theorem Yields.discard {last : Writer → Prop} (h : Yields pre act post fail)
    (hpost : ∀ a w, post a w → last w) : Yields pre (discard act) (fun _ => last) fail :=
  h.map hpost

theorem Yields.forM_nil {f : β → Action Writer Unit} (h : ∀ w, pre w → pre' w) :
    Yields pre ([].forM f) (fun _ => pre') fail :=
  fun s hs => .inl ⟨(), s, rfl, h _ hs⟩

/-- Parts of a sequence behind others. -/
theorem Yields.forM_append {f : β → Action Writer Unit} {as bs : List β}
    {mid last : Writer → Prop} (has : Yields pre (as.forM f) (fun _ => mid) fail)
    (hbs : Yields mid (bs.forM f) (fun _ => last) fail) :
    Yields pre ((as ++ bs).forM f) (fun _ => last) fail := by
  intro s hs
  rw [perform_forM_append]
  rcases has s hs with ⟨_, t, ht, ha⟩ | ⟨fault, t, ht, hf⟩
  · rw [ht]
    exact hbs t ha
  · rw [ht]
    exact .inr ⟨fault, t, rfl, hf⟩

/-- A part of a sequence in front of others. -/
theorem Yields.forM_cons {f : β → Action Writer Unit} {a : β} {as : List β}
    {mid last : Writer → Prop} (ha : Yields pre (f a) (fun _ => mid) fail)
    (has : Yields mid (as.forM f) (fun _ => last) fail) :
    Yields pre ((a :: as).forM f) (fun _ => last) fail := by
  intro s hs
  rw [perform_forM_cons]
  rcases ha s hs with ⟨_, t, ht, hm⟩ | ⟨fault, t, ht, hf⟩
  · rw [ht]
    exact has t hm
  · rw [ht]
    exact .inr ⟨fault, t, rfl, hf⟩

/-- A part that takes over where another one fails. -/
theorem Yields.tryCatch {handler : Fault → Action Writer α} (h : Yields pre act post fail)
    (hhandler : ∀ fault, Yields fail (handler fault) post fail') :
    Yields pre (tryCatch act handler) post fail' := by
  intro s hs
  rw [perform_tryCatch]
  rcases h s hs with ⟨a, t, ht, ha⟩ | ⟨fault, t, ht, hf⟩
  · rw [ht]
    exact .inl ⟨a, t, rfl, ha⟩
  · rw [ht]
    exact hhandler fault t hf

theorem yields_get : Yields pre get (fun _ => pre) fail :=
  fun s hs => .inl ⟨s, s, rfl, hs⟩

/-- A change that leaves the writer as it is. -/
theorem yields_modify {change : Session Writer → Session Writer}
    (h : ∀ s, (change s).output = s.output) :
    Yields pre (modify change) (fun _ => pre) fail :=
  fun s hs => .inl ⟨⟨⟩, change s, rfl, (h s).symm ▸ hs⟩

theorem yields_log (line : LogLine) : Yields pre (log line) (fun _ => pre) fail :=
  yields_modify fun _ => rfl

theorem yields_count (change : Tally → Tally) : Yields pre (count change) (fun _ => pre) fail :=
  yields_modify fun _ => rfl

/-- The policy may raise what it is given. -/
theorem yields_consult (fault : Fault) (op : Operation) (target : Target) :
    Yields pre (consult fault op target) (fun _ => pre) pre := by
  intro s hs
  rw [perform_consult]
  cases (s.policy.handle fault op target).outcome with
  | ok fallback => exact .inl ⟨_, _, rfl, hs⟩
  | error raised => exact .inr ⟨raised, _, rfl, hs⟩

theorem yields_submit (fault : Fault) (op : Operation) (target : Target) :
    Yields pre (submit fault op target) (fun _ => pre) pre :=
  (yields_consult fault op target).discard fun _ _ hw => hw

theorem perform_write (call : Writing α) (s : Session Writer) :
    perform (Action.write call) s =
      ((s.output.call call).1.mapError Fault.write,
        { s with output := (s.output.call call).2 }) := by
  unfold Action.write
  simp only [perform_bind, perform_get, perform_set]
  rcases s.output.call call with ⟨_ | a, w⟩ <;> rfl

theorem perform_write_of_ok {call : Writing α} {s : Session Writer} {a : α} {w : Writer}
    (h : s.output.call call = (.ok a, w)) :
    perform (Action.write call) s = (.ok a, { s with output := w }) := by
  rw [perform_write, h]
  rfl

theorem perform_write_of_error {call : Writing α} {s : Session Writer} {fault : WriteFault}
    {w : Writer} (h : s.output.call call = (.error fault, w)) :
    perform (Action.write call) s = (.error (.write fault), { s with output := w }) := by
  rw [perform_write, h]
  rfl

/-- A call to the writer. -/
theorem Yields.call {call : Writing α}
    (h : ∀ w, pre w → (∃ a w', w.call call = (.ok a, w') ∧ post a w') ∨
      ∃ fault w', w.call call = (.error fault, w') ∧ fail w') :
    Yields pre (Action.write call) post fail := by
  intro s hs
  rcases h _ hs with ⟨a, w', hcall, ha⟩ | ⟨fault, w', hcall, hf⟩
  · exact .inl ⟨a, _, perform_write_of_ok hcall, ha⟩
  · exact .inr ⟨_, _, perform_write_of_error hcall, hf⟩

/-- A call to the writer that succeeds. -/
theorem Yields.write {call : Writing α}
    (h : ∀ w, pre w → ∃ a w', w.call call = (.ok a, w') ∧ post a w') :
    Yields pre (Action.write call) post fail :=
  .call fun w hw => .inl (h w hw)

/-- A call to the writer that leaves the same, whether it succeeds or not. -/
theorem Yields.leaving {call : Writing α} {last : Writer → Prop}
    (h : ∀ w, pre w → last (w.call call).2) :
    Yields pre (Action.write call) (fun _ => last) last := by
  refine .call fun w hw => ?_
  have hbehind := h w hw
  rcases hcall : w.call call with ⟨fault | a, w'⟩
  · rw [hcall] at hbehind
    exact .inr ⟨fault, w', rfl, hbehind⟩
  · rw [hcall] at hbehind
    exact .inl ⟨a, w', rfl, hbehind⟩

theorem yields_ask (answer : Except Fault α) (wrap : Fault → Fault) :
    Yields pre (ask answer wrap) (fun a w => answer = .ok a ∧ pre w) pre := by
  intro s hs
  cases answer with
  | ok a => exact .inl ⟨a, s, rfl, rfl, hs⟩
  | error fault => exact .inr ⟨wrap fault, s, rfl, hs⟩

/-- The session behind a part that failed and may be given up, with a log line for the failure. -/
def traced (s : Session Writer) (fault : Fault) (op : Operation) (target : Target) :
    Session Writer :=
  let message := s!"{op} failed for {target.describe}: {fault.message}"
  { s with diagnostics := s.diagnostics.push (.log ⟨.debug, .report, message⟩) }

/-- What fails in a way that can be survived is told to the policy, which may raise it or answer. -/
theorem perform_recover (op : Operation) (target : Target) (goOn : Option Int → α)
    (act : Action Writer α) (s : Session Writer) :
    (recover op target goOn act).perform s = match act.perform s with
      | (.ok a, t) => (.ok a, t)
      | (.error fault, t) =>
        if fault.isRecoverable then
          let handling := t.policy.handle fault op target
          (handling.outcome.map fun _ => goOn handling.time,
            { t with
              policy := handling.policy
              diagnostics := warned (traced t fault op target) handling })
        else (.error fault, t) := by
  unfold recover
  rw [perform_tryCatch]
  rcases act.perform s with ⟨fault | a, t⟩
  · change perform (if fault.isRecoverable then _ else _) t = _
    dsimp only
    by_cases hr : fault.isRecoverable = true
    · rw [if_pos hr, if_pos hr, perform_bind, perform_debug]
      dsimp only
      rw [perform_bind, perform_consult]
      dsimp only
      cases (t.policy.handle fault op target).outcome <;> rfl
    · rw [if_neg hr, if_neg hr]
      rfl
  · rfl

/-- Giving a part up. -/
theorem perform_attempt (op : Operation) (target : Target) (act : Action Writer α)
    (s : Session Writer) :
    (attempt op target act).perform s = match act.perform s with
      | (.ok _, t) => (.ok (), t)
      | (.error fault, t) =>
        if fault.isRecoverable then
          let handling := t.policy.handle fault op target
          (handling.outcome.map fun _ => (),
            { t with
              policy := handling.policy
              diagnostics := warned (traced t fault op target) handling })
        else (.error fault, t) := by
  unfold attempt
  rw [perform_recover, perform_discard]
  rcases act.perform s with ⟨fault | a, t⟩ <;> rfl

/-- **A part that fails before it writes anything** leaves the writer as it was if its failure is
survived, and also if it is not. -/
theorem Yields.recover {op : Operation} {target : Target} {goOn : Option Int → α}
    (h : Yields pre act post pre) :
    Yields pre (recover op target goOn act)
      (fun a w => post a w ∨ (∃ time, a = goOn time) ∧ pre w) pre := by
  refine (h.imp_post fun _ _ hw => .inl hw).tryCatch fun fault => ?_
  by_cases hr : fault.isRecoverable = true
  · rw [if_pos hr]
    exact (yields_log _).bind fun _ => (yields_consult fault op target).bind fun time =>
      .pure fun w hw => .inr ⟨⟨time, rfl⟩, hw⟩
  · rw [if_neg hr]
    exact .throw fun w hw => hw

/-- A part that is given up where it fails. -/
theorem Yields.attempt {op : Operation} {target : Target} {last : Writer → Prop}
    (h : Yields pre act post pre) (hpost : ∀ a w, post a w → last w)
    (hpre : ∀ w, pre w → last w) :
    Yields pre (attempt op target act) (fun _ => last) pre :=
  (h.discard hpost).recover.imp_post fun _ w hw => hw.elim id fun hw => hpre w hw.2

end HiveDump.Report
