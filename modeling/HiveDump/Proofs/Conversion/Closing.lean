import HiveDump.Image.Hive
import HiveDump.Memory.Hive
import HiveDump.Proofs.Conversion.Steps
import HiveDump.Proofs.Report.Depth
import HiveDump.Proofs.Report.Outcome

/-!
# Closing the hive

A conversion closes its hive once, whatever fails: reading, the error policy, the device or closing
itself. Everything of the document but the end tag of its root is written before that. A fault of
the content is raised even if the hive does not close, and the failure to close is only logged; if
only closing fails, its fault is raised.

Results:
* `closesProperly_memory`, `closesProperly_image`: hives fail to close as they should;
* `grows_completion`: closing is behind all content;
* **`closes_once`**: one closing, in front of the end tag, and the fault that is raised.
-/

namespace HiveDump

theorem closesProperly_memory (h : MemoryHive) : h.source.ClosesProperly := by
  intro fault hfault
  change (if h.failsToClose then Except.error Fault.unclosable else .ok ()) = .error fault at hfault
  split at hfault
  · cases hfault
    rfl
  · cases hfault

theorem closesProperly_image (f : HiveFile) : f.source.ClosesProperly :=
  fun _ hfault => nomatch hfault

namespace Conversion

open Report Writer

variable {src : Source} {skipping : Bool} {c : Conversion}

/-! ## Behind the content -/

/-- Completing a document closes no hive, and takes nothing back. -/
theorem grows_completion (tally : Tally) (h : Names [rootName] c.session.output) :
    (after (completion tally) c).2.closings = c.closings ∧
      Continues c.session.output (after (completion tally) c).2.session.output := by
  have hfinish : Charts "" none [rootName] finish fun _ => [] := charts_finish (by decide)
  obtain ⟨hgrows, -, -⟩ := hfinish.perform c.session h
  unfold completion
  rw [after_bind, after_report]
  generalize finish.perform c.session = finished at hgrows ⊢
  rcases finished with ⟨_ | _, s⟩
  · exact ⟨rfl, hgrows⟩
  · exact ⟨rfl, hgrows⟩

/-- What follows the content of a document takes nothing of it back. -/
theorem grows_convert (src : Source) (skipping : Bool) {s : Session Writer}
    (hnames : Names [] s.output) :
    Continues ((body src skipping).perform s).2.output
      (after (convert src skipping) { session := s }).2.session.output := by
  obtain ⟨-, -, hrooted⟩ := (charts_body src skipping).perform s hnames
  rcases hbody : (body src skipping).perform s with ⟨fault | tally, t⟩
  · obtain ⟨raised, c', hgiveUp, -, houtput, -⟩ := giveUp_spec src fault { session := t }
    rw [convert_of_error (c := { session := s }) hbody, hgiveUp, houtput]
    exact .refl t.output
  · rw [hbody] at hrooted
    rw [convert_of_ok (c := { session := s }) hbody, after_bind, after_close]
    cases src.close with
    | error fault => exact .refl t.output
    | ok _ =>
      exact (grows_completion (c := closed src { session := t }) tally (hrooted tally rfl)).2

/-! ## The content -/

/-- A document that is not started has no end tag. -/
theorem unclosed_opening (config : Config) (device : Device) (policy : Policy)
    (trace : List LogLine) : Unclosed rootName (opening config device policy trace).output :=
  List.not_mem_nil

/-! ## Whole conversions -/

/-- How a conversion that ends like `final` has closed its hive, behind a content that ended like
`content`. -/
structure ClosesOnce (src : Source) (content : Except Fault Tally × Session Writer)
    (final : Except Fault Tally × Conversion) : Prop where
  /-- The hive is closed once, and not behind the end tag of the root. -/
  once : ∃ closing, final.2.closings = [closing] ∧ closing.outcome = src.close ∧
    Token.endTag rootName ∉ final.2.session.output.tokens.toList.take closing.written
  /-- What the content raises is raised; that the hive does not close is only logged. -/
  failed : ∀ fault, content.1 = .error fault → src.ClosesProperly →
    final.1 = .error fault ∧ Unclosed rootName final.2.session.output ∧
      final.2.session.diagnostics.toList = content.2.diagnostics.toList ++ releaseLog src
  /-- What closing raises is raised behind a complete content, and the root stays open. -/
  unclosable : ∀ tally fault, content.1 = .ok tally → src.close = .error fault →
    final.1 = .error fault ∧ Unclosed rootName final.2.session.output

theorem ClosesOnce.of_tokens {content : Except Fault Tally × Session Writer}
    {result : Except Fault Tally} {c c' : Conversion} (h : ClosesOnce src content (result, c))
    (htokens : c'.session.output.tokens = c.session.output.tokens)
    (hdiagnostics : c'.session.diagnostics = c.session.diagnostics)
    (hclosings : c'.closings = c.closings) : ClosesOnce src content (result, c') := by
  obtain ⟨once, failed, unclosable⟩ := h
  unfold Unclosed at failed unclosable
  refine ⟨?_, ?_, ?_⟩
  · rw [hclosings, htokens]
    exact once
  · rw [Unclosed, htokens, hdiagnostics]
    exact failed
  · rw [Unclosed, htokens]
    exact unclosable

/-- The pieces that were written before the hive was closed. -/
theorem take_tokens {w w' : Writer} (h : Continues w w') :
    w'.tokens.toList.take w.tokens.size = w.tokens.toList := by
  rw [← Array.length_toList]
  exact (List.prefix_iff_eq_take.mp h.tokens).symm

theorem convert_closesOnce (src : Source) (skipping : Bool) {s : Session Writer}
    (hnames : Names [] s.output) (hopen : Unclosed rootName s.output) :
    ClosesOnce src ((body src skipping).perform s)
      (after (convert src skipping) { session := s }) := by
  obtain ⟨-, hunclosed, hrooted⟩ := (charts_body src skipping).perform s hnames
  have hbehind := hunclosed hopen
  rcases hbody : (body src skipping).perform s with ⟨fault | tally, t⟩
  · rw [hbody] at hbehind
    obtain ⟨raised, c', hgiveUp, hclosings, houtput, -, hproper⟩ :=
      giveUp_spec src fault { session := t }
    rw [convert_of_error (c := { session := s }) hbody, hgiveUp]
    have hstays : Unclosed rootName c'.session.output := houtput ▸ hbehind
    refine ⟨⟨_, hclosings, rfl, fun hmem => hstays (List.mem_of_mem_take hmem)⟩, ?_, ?_⟩
    · rintro _ ⟨⟩ hclose
      obtain ⟨rfl, hdiagnostics⟩ := hproper hclose
      exact ⟨rfl, hstays, hdiagnostics⟩
    · exact fun _ _ hok => nomatch hok
  · rw [hbody] at hbehind hrooted
    rw [convert_of_ok (c := { session := s }) hbody, after_bind, after_close]
    cases hclose : src.close with
    | error fault =>
      refine ⟨⟨_, rfl, rfl, fun hmem => hbehind (List.mem_of_mem_take hmem)⟩, ?_, ?_⟩
      · exact fun _ herror => nomatch herror
      · intro _ other _ hother
        rw [hclose] at hother
        cases hother
        exact ⟨rfl, hbehind⟩
    | ok _ =>
      obtain ⟨hclosings, hgrows⟩ := grows_completion (c := closed src { session := t }) tally
        (hrooted tally rfl)
      have htaken := take_tokens (w := t.output) hgrows
      refine ⟨⟨_, hclosings, rfl, fun hmem => hbehind (htaken ▸ hmem)⟩, ?_, ?_⟩
      · exact fun _ herror => nomatch herror
      · intro _ other _ hother
        rw [hclose] at hother
        cases hother

/-- **A conversion closes its hive once**, in front of the end tag of the root, and raises the fault
of its content rather than the one of closing. -/
theorem closes_once {config : Config} {policy : Policy} (hvalid : config.complaints = .ok [])
    (hpolicy : config.policy = .policy policy) (device : Device) (src : Source)
    (trace : List LogLine) :
    let start := opening config device policy trace
    let final := run src config.skipBad { session := start }
    convertWith config device (.ok src, trace) = .of final ∧
      ClosesOnce src ((body src config.skipBad).perform start) final := by
  intro start final
  constructor
  · exact (convertWith_eq hvalid hpolicy device src trace).trans (outcome_run src _ _).symm
  · obtain ⟨w, hrun, -, htokens⟩ := run_eq src config.skipBad { session := start }
    have honce := convert_closesOnce src config.skipBad (rfl : Names [] start.output)
      (unclosed_opening config device policy trace)
    have hfinal : final = _ := hrun
    rw [hfinal]
    exact honce.of_tokens htokens rfl rfl

/-- A configuration that raises every fault. -/
def strict : Config where
  policy := .policy { rule := .failFast }

theorem complaints_strict : strict.complaints = .ok [] :=
  complaints_standard

/-- The text that the hive lacks is raised, though the hive does not close either. -/
theorem body_damaged :
    ((body (damaged true).source strict.skipBad).perform
      (opening strict .working { rule := .failFast } [])).1 =
      .error (.missingAttributeData (some "value")) := by
  unfold body Walk.run
  rw [events_damaged]
  decide +kernel

theorem closes_once_damaged :
    strict.complaints = .ok [] ∧ strict.policy = .policy { rule := .failFast } ∧
      ∃ closing,
        (convertWith strict .working (.ok (damaged true).source, [])).closings = [closing] ∧
        closing.outcome = .error .unclosable ∧
        (convertWith strict .working (.ok (damaged true).source, [])).result =
          .error (.missingAttributeData (some "value")) := by
  obtain ⟨hfinal, honce, hfailed, -⟩ :=
    closes_once complaints_strict rfl .working (damaged true).source []
  obtain ⟨closing, hclosings, houtcome, -⟩ := honce
  obtain ⟨hresult, -⟩ := hfailed _ body_damaged (closesProperly_memory _)
  rw [hfinal]
  exact ⟨complaints_strict, rfl, closing, hclosings, houtcome, hresult⟩

end Conversion

end HiveDump
