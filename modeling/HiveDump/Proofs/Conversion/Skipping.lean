import HiveDump.Proofs.Conversion.Closing
import HiveDump.Proofs.Markup.Prefix

/-!
# Strict and skipping conversions

A strict conversion stops at the first thing that is malformed, a skipping one submits it to the
policy and goes on. Up to there the two do the same, so what the strict one has written then stands
in front of what the skipping one writes, whatever the policy, the encoding and the device are. If
nothing malformed is met, the two are the same.

Results:
* **`walks_part`**: two walks are the same up to the first thing that is malformed;
* `contents_part`: so are the contents of two documents;
* **`strict_prefix_skipping`**: the document of a strict conversion, and when both are the
  same.
-/

namespace HiveDump

/-! ## Two walks -/

namespace Walk

open HiveDump.Action

variable {δ : Type} {v : Visitor δ}

/-- What a walk goes over, up to the first step that fails. -/
def goneOver (skipping : Bool) (v : Visitor δ) : List Event → Session δ → List Event
  | [], _ => []
  | ev :: evs, s => ev :: match (step skipping v ev).perform s with
    | (.ok _, t) => goneOver skipping v evs t
    | (.error _, _) => []

theorem goneOver_subset (skipping : Bool) (v : Visitor δ) (evs : List Event) (s : Session δ) :
    goneOver skipping v evs s ⊆ evs := by
  induction evs generalizing s with
  | nil => exact List.Subset.refl _
  | cons ev evs ih =>
    unfold goneOver
    rcases (step skipping v ev).perform s with ⟨_ | _, t⟩
    · exact List.cons_subset_cons _ (List.nil_subset _)
    · exact List.cons_subset_cons _ (ih t)

/-- Strict and skipping walks differ in what they do about malformed entries only. -/
theorem step_skipping {ev : Event} (h : ev.isMalformed = false) :
    step true v ev = step false v ev := by
  cases ev with
  | malformed fault list n => cases h
  | _ => rfl

/-- A strict walk from a session that stops at `ev`, where the skipping one goes on with
`behind`. -/
structure PartsAt (v : Visitor δ) (evs : List Event) (s : Session δ) (before : List Event)
    (ev : Event) (behind : List Event) (t : Session δ) : Prop where
  events : evs = before ++ ev :: behind
  malformed : ev.isMalformed = true
  met : ev ∈ goneOver false v evs s
  skipping : (before.forM (step true v)).perform s = (.ok (), t)
  strict : ∃ fault, (evs.forM (step false v)).perform s = (.error fault, t)

/-- **Two walks are the same** up to the first thing that is malformed. -/
theorem walks_part (v : Visitor δ) (evs : List Event) (s : Session δ) :
    (evs.forM (step true v)).perform s = (evs.forM (step false v)).perform s ∨
      ∃ before ev behind t, PartsAt v evs s before ev behind t := by
  induction evs generalizing s with
  | nil => exact .inl rfl
  | cons ev evs ih =>
    cases hmalformed : ev.isMalformed with
    | true =>
      refine .inr ⟨[], ev, evs, s, rfl, hmalformed, List.mem_cons_self, rfl, ?_⟩
      cases ev with
      | malformed fault list n => exact ⟨_, rfl⟩
      | _ => cases hmalformed
    | false =>
      rw [perform_forM_cons, perform_forM_cons, step_skipping hmalformed]
      rcases hstep : (step false v ev).perform s with ⟨fault | _, t⟩
      · exact .inl rfl
      · rcases ih t with hsame | ⟨before, stop, behind, u, hparts⟩
        · exact .inl hsame
        · refine .inr ⟨ev :: before, stop, behind, u, ?_, hparts.malformed, ?_, ?_, ?_⟩
          · rw [hparts.events]
            rfl
          · unfold goneOver
            rw [hstep]
            exact List.mem_cons_of_mem _ hparts.met
          · rw [perform_forM_cons, step_skipping hmalformed, hstep]
            exact hparts.skipping
          · rw [perform_forM_cons, hstep]
            exact hparts.strict

end Walk

namespace Conversion

open Report Writer Walk HiveDump.Action

variable {src : Source} {s : Session Writer}

/-! ## Two documents -/

/-- What a strict conversion meets on its walk. -/
def met (src : Source) (s : Session Writer) : List Event :=
  match (prologue src).perform s with
  | (.ok _, t) => goneOver false (visitor src) (events src) t
  | (.error _, _) => []

/-- A strict content that is cut off at something malformed, where the skipping one goes on. -/
structure CutOffAt (src : Source) (s : Session Writer) (ev : Event) (t : Session Writer) :
    Prop where
  met : ev ∈ met src s
  malformed : ev.isMalformed = true
  strict : ∃ fault, (body src false).perform s = (.error fault, t)
  goesOn : Continues t.output ((body src true).perform s).2.output

theorem perform_body_of_error {skipping : Bool} {fault : Fault} {t : Session Writer}
    (h : (prologue src).perform s = (.error fault, t)) :
    (body src skipping).perform s = (.error fault, t) := by
  rw [body_eq, perform_bind, h]

theorem perform_body_of_ok {skipping : Bool} {t : Session Writer}
    (h : (prologue src).perform s = (.ok (), t)) :
    (body src skipping).perform s =
      (do (events src).forM (step skipping (visitor src)); tellTally : Action Writer Tally).perform
        t := by
  rw [body_eq, perform_bind, h]
  rfl

/-- **The contents of two documents are the same** up to the first thing that is malformed. -/
theorem contents_part (src : Source) (hnames : Names [] s.output) :
    (body src true).perform s = (body src false).perform s ∨ ∃ ev t, CutOffAt src s ev t := by
  obtain ⟨-, -, hopen⟩ := (charts_prologue src).perform s hnames
  rcases hprologue : (prologue src).perform s with ⟨fault | _, t⟩
  · rw [perform_body_of_error hprologue, perform_body_of_error hprologue]
    exact .inl rfl
  · rw [hprologue] at hopen
    have hrooted : Names (nodesOpen 0) t.output := hopen () rfl
    rcases walks_part (visitor src) (events src) t with hsame | ⟨before, ev, behind, u, hparts⟩
    · left
      rw [perform_body_of_ok hprologue, perform_body_of_ok hprologue, perform_bind, perform_bind,
        hsame]
    · right
      have hlevel := level_events src 0
      rw [hparts.events, depthBehind?_append] at hlevel
      obtain ⟨depth, hbefore, hbehind⟩ := Option.bind_eq_some_iff.mp hlevel
      -- The two walks part here, at a depth from which what is left can be charted.
      obtain ⟨-, -, hdepth⟩ := (charts_told src true hbefore).perform t hrooted
      rw [hparts.skipping] at hdepth
      have hrest := (charts_told src true hbehind).bind fun _ => charts_tellTally
      obtain ⟨hgrows, -, -⟩ := hrest.perform u (hdepth () rfl)
      refine ⟨ev, u, ?_, hparts.malformed, ?_, ?_⟩
      · rw [met, hprologue]
        exact hparts.met
      · obtain ⟨fault, hstrict⟩ := hparts.strict
        rw [perform_body_of_ok hprologue, perform_bind, hstrict]
        exact ⟨fault, rfl⟩
      · rw [perform_body_of_ok hprologue, perform_bind, hparts.events, perform_forM_append,
          hparts.skipping]
        rw [perform_bind] at hgrows
        exact hgrows

/-! ## Two conversions -/

/-- What follows the content does not depend on what is skipped. -/
theorem convert_congr (h : (body src true).perform s = (body src false).perform s) :
    after (convert src true) { session := s } = after (convert src false) { session := s } := by
  rcases hstrict : (body src false).perform s with ⟨fault | tally, t⟩
  · rw [convert_of_error (c := { session := s }) hstrict,
      convert_of_error (c := { session := s }) (h.trans hstrict)]
  · rw [convert_of_ok (c := { session := s }) hstrict,
      convert_of_ok (c := { session := s }) (h.trans hstrict)]

/-- Two conversions of a hive: they are the same, or the strict one meets something malformed and
stops in front of what the skipping one writes. -/
theorem conversions_part (src : Source) (hnames : Names [] s.output) :
    after (convert src true) { session := s } = after (convert src false) { session := s } ∨
      (∃ ev ∈ met src s, ev.isMalformed = true) ∧
        Continues (after (convert src false) { session := s }).2.session.output
          (after (convert src true) { session := s }).2.session.output := by
  rcases contents_part src hnames with hsame | ⟨ev, t, hcut⟩
  · exact .inl (convert_congr hsame)
  · refine .inr ⟨⟨ev, hcut.met, hcut.malformed⟩, ?_⟩
    obtain ⟨fault, hstrict⟩ := hcut.strict
    obtain ⟨raised, c', hgiveUp, -, houtput, -⟩ := giveUp_spec src fault { session := t }
    rw [convert_of_error (c := { session := s }) hstrict, hgiveUp, houtput]
    exact hcut.goesOn.trans (grows_convert src true hnames)

/-- What the strict conversion from a configuration meets on its walk, if it comes to walk. -/
def metStrictly (config : Config) (device : Device)
    (opened : Except Fault Source × List LogLine) : List Event :=
  match config.policy, config.complaints, opened.1 with
  | .policy policy, .ok [], .ok src => met src (opening config device policy opened.2)
  | _, _, _ => []

/-- **The document of a strict conversion stands in front of the one of a skipping conversion**; if
nothing malformed is met, everything that the two leave is the same. -/
theorem strict_prefix_skipping (config : Config) (device : Device)
    (opened : Except Fault Source × List LogLine) :
    let strict := convertWith { config with skipBad := false } device opened
    let skipping := convertWith { config with skipBad := true } device opened
    strict.document.getD [] <+: skipping.document.getD [] ∧
      ((∀ ev ∈ metStrictly config device opened, ev.isMalformed = false) → strict = skipping) := by
  intro strict skipping
  -- What keeps a conversion from starting is the same with and without skipping.
  cases hhindrance : hindrance? config opened with
  | some hindrance =>
    have hboth (skipBad : Bool) : hindrance? { config with skipBad := skipBad } opened =
        some hindrance := hhindrance
    have hstrict : strict = _ := convertWith_of_hindrance (hboth false) device
    have hskipping : skipping = _ := convertWith_of_hindrance (hboth true) device
    rw [hstrict, hskipping]
    exact ⟨List.prefix_refl _, fun _ => rfl⟩
  | none =>
    obtain ⟨hvalid, ⟨policy, hpolicy⟩, src, hsrc⟩ := hindrance?_eq_none hhindrance
    obtain ⟨_, trace⟩ := opened
    subst hsrc
    have hboth (skipBad : Bool) : { config with skipBad := skipBad }.complaints = .ok [] := hvalid
    have hstrict : strict = .of (after (convert src false)
        { session := opening config device policy trace }) :=
      convertWith_eq (hboth false) hpolicy device src trace
    have hskipping : skipping = .of (after (convert src true)
        { session := opening config device policy trace }) :=
      convertWith_eq (hboth true) hpolicy device src trace
    have hmet : metStrictly config device (.ok src, trace) =
        met src (opening config device policy trace) := by
      rw [metStrictly, hpolicy, hvalid]
    rw [hstrict, hskipping, hmet]
    rcases conversions_part src (rfl : Names [] (opening config device policy trace).output) with
      hsame | ⟨⟨ev, hev, hmalformed⟩, hgrows⟩
    · rw [hsame]
      exact ⟨List.prefix_refl _, fun _ => rfl⟩
    · rw [document_of, document_of]
      refine ⟨hgrows.bytes, fun hnone => ?_⟩
      rw [hnone ev hev] at hmalformed
      cases hmalformed

theorem met_subset (src : Source) (s : Session Writer) : met src s ⊆ events src := by
  unfold met
  rcases (prologue src).perform s with ⟨_ | _, t⟩
  · exact List.nil_subset _
  · exact goneOver_subset false _ _ t

theorem isMalformed_damaged :
    ∀ ev ∈ metStrictly {} .working (.ok (damaged false).source, []), ev.isMalformed = false := by
  have hall : ((events (damaged false).source).all fun ev => !ev.isMalformed) = true := by
    rw [events_damaged]
    decide +kernel
  intro ev hev
  unfold metStrictly at hev
  rw [complaints_standard] at hev
  simpa using List.all_eq_true.mp hall ev (met_subset _ _ hev)

theorem strict_prefix_skipping_damaged :
    (∀ ev ∈ metStrictly {} .working (.ok (damaged false).source, []), ev.isMalformed = false) ∧
      convertWith {} .working (.ok (damaged false).source, []) =
        convertWith { skipBad := true } .working (.ok (damaged false).source, []) :=
  ⟨isMalformed_damaged, (strict_prefix_skipping {} _ _).2 isMalformed_damaged⟩

end Conversion

end HiveDump
