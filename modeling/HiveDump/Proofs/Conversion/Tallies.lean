import HiveDump.Proofs.Markup.Reading
import HiveDump.Proofs.Report.Accord
import HiveDump.Proofs.Report.Converted
import HiveDump.Proofs.Report.Outcome

/-!
# The four books of a conversion

A conversion tells four times what it has done: in the tally that it returns, in the records of its
policy, in its warnings and in its document. The tally counts what the walk has done, however the
conversion ends. Behind a conversion that succeeds under a policy that resumes, all four agree, in
every encoding and on every device.

Results:
* `run_inAccord`: tally, records and warnings agree behind every conversion;
* `convert_shows`: the document of a conversion that succeeds shows what was counted;
* **`books_agree`**: the tally of every walk and every conversion, and the agreement of the books.
-/

namespace HiveDump

namespace Markup

/-- The number of elements of a name that tokens start. -/
def elementCount (name : String) (ts : List Token) : Nat :=
  (startNames ts).count name

theorem startNames_joinText (content : String) (ts : List Token) :
    startNames (joinText content ts) = startNames ts := by
  unfold joinText
  split
  · rfl
  · split <;> rfl

/-- Joining texts leaves the elements. -/
theorem startNames_joinTexts (ts : List Token) : startNames (joinTexts ts) = startNames ts := by
  induction ts with
  | nil => rfl
  | cons t ts ih =>
    cases t with
    | text content => exact (startNames_joinText content _).trans ih
    | declaration label => exact ih
    | endTag name => exact ih
    | startTag name attributes => exact congrArg (name :: ·) ih

theorem elementCount_joined (name : String) {root : Tree} (h : root.IsElement) :
    elementCount name root.joined.tokens = elementCount name root.tokens := by
  have hjoin := Tree.joinTexts_tokens root h []
  rw [List.append_nil, joinTexts, List.append_nil] at hjoin
  rw [elementCount, ← hjoin, startNames_joinTexts, elementCount]

end Markup

namespace Conversion

open HiveDump.Action Markup Report

variable {src : Source} {skipping verbose : Bool} {s t : Session Writer} {c c' : Conversion}
  {tally : Tally}

/-! ## The tally -/

/-- A report leaves the tally to the walk. -/
theorem keeps_tally (src : Source) : (visitor src).Keeps fun s => s.tally :=
  ⟨fun n s => ((composed_nodeStart src n).trail s).tally,
    fun _ v s => ((composed_value src v).trail s).tally, fun _ s => (composed_nodeEnd.trail s).tally⟩

/-- What the tally of a conversion should be: what its walk has done, if the conversion has come to
its walk. -/
def walked (src : Source) (skipping : Bool) (s : Session Writer) : Tally :=
  match (prologue src).perform s with
  | (.ok _, t) => Walk.made src skipping (visitor src) t
  | (.error _, _) => {}

theorem body_tally (src : Source) (skipping : Bool) (hs : s.tally = {}) :
    ((body src skipping).perform s).2.tally = walked src skipping s ∧
      ∀ tally, ((body src skipping).perform s).1 = .ok tally → tally = walked src skipping s := by
  have htally := ((composed_prologue src).trail s).tally
  rw [body_eq, perform_bind, walked]
  rcases hprologue : (prologue src).perform s with ⟨fault | ⟨⟩, t⟩
  · rw [hprologue] at htally
    exact ⟨htally.trans hs, nofun⟩
  · rw [hprologue] at htally
    exact Walk.run_tally (keeps_tally src) (htally.trans hs)

/-! ## What follows the body -/

/-- Behind its body a conversion leaves a trail, and it succeeds only with the tally of the body. -/
theorem convert_trail (src : Source) (skipping : Bool) (c : Conversion) :
    Trail ((body src skipping).perform c.session).2 (after (convert src skipping) c).2.session ∧
      ∀ tally, (after (convert src skipping) c).1 = .ok tally →
        ((body src skipping).perform c.session).1 = .ok tally := by
  rcases hbody : (body src skipping).perform c.session with ⟨fault | tally, t⟩
  · rw [convert_of_error hbody, after_giveUp]
    cases src.close with
    | ok _ => exact ⟨.refl t, fun _ h => by cases h⟩
    | error other =>
      dsimp only
      split
      · exact ⟨(Trail.refl t).log _, fun _ h => by cases h⟩
      · exact ⟨.refl t, fun _ h => by cases h⟩
  · rw [convert_of_ok hbody, after_bind, after_close]
    cases src.close with
    | error other => exact ⟨.refl t, fun _ h => by cases h⟩
    | ok _ =>
      have htrail := composed_finish.trail t
      dsimp only
      rw [completion, after_bind, after_report]
      dsimp only [closed]
      rcases hfinish : finish.perform t with ⟨fault | ⟨⟩, u⟩
      · rw [hfinish] at htrail
        exact ⟨htrail, fun _ h => by cases h⟩
      · rw [hfinish] at htrail
        refine ⟨htrail.log _, fun other hother => ?_⟩
        cases hother
        rfl

/-- What a caller keeps of a run is what the conversion has left, but for the writer. -/
theorem run_trail (src : Source) (skipping : Bool) (c : Conversion) :
    Trail ((body src skipping).perform c.session).2 (run src skipping c).2.session ∧
      (run src skipping c).1 = (after (convert src skipping) c).1 := by
  obtain ⟨w, hrun, -, -⟩ := run_eq src skipping c
  rw [hrun]
  exact ⟨(convert_trail src skipping c).1.write w, rfl⟩

/-- **The tally of a conversion**, however it ends. -/
theorem run_tally (src : Source) (skipping : Bool) (hs : c.session.tally = {}) :
    (run src skipping c).2.session.tally = walked src skipping c.session ∧
      ∀ tally, (run src skipping c).1 = .ok tally → tally = walked src skipping c.session := by
  obtain ⟨hbody, hresult⟩ := body_tally src skipping hs
  obtain ⟨htrail, hsame⟩ := run_trail src skipping c
  refine ⟨htrail.tally.trans hbody, fun tally h => ?_⟩
  exact hresult tally ((convert_trail src skipping c).2 tally (hsame ▸ h))

/-! ## Records and warnings -/

/-- **Tally, records and warnings agree** behind every conversion, however it ends. -/
theorem run_inAccord (src : Source) (skipping : Bool) (hs : c.session.InAccord verbose) :
    (run src skipping c).2.session.InAccord verbose := by
  refine (run_trail src skipping c).1.inAccord ?_
  have hprologue := ((composed_prologue src).trail c.session).inAccord hs
  rw [body_eq, perform_bind]
  rcases hperform : (prologue src).perform c.session with ⟨fault | ⟨⟩, t⟩
  · rw [hperform] at hprologue
    exact hprologue
  · rw [hperform] at hprologue
    exact Walk.inAccord_run src skipping hprologue

/-- Before a conversion nothing is recorded, and there is nothing but a log. -/
theorem inAccord_opening (config : Config) (device : Device) (verbose : Bool)
    (trace : List LogLine) :
    (opening config device { rule := .resume verbose } trace).InAccord verbose := by
  refine ⟨rfl, rfl, rfl, rfl, ?_⟩
  have hlog : (trace.map Diagnostic.log).filterMap Diagnostic.warning? = [] := by
    rw [List.filterMap_eq_nil_iff]
    rintro _ hmem
    obtain ⟨line, -, rfl⟩ := List.mem_map.mp hmem
    rfl
  cases verbose <;> exact hlog

/-! ## Elements -/

/-- What a call that succeeds leaves. -/
theorem of_write {call : Writing Unit} (h : (Action.write call).perform s = (.ok (), t)) :
    s.output.call call = (.ok (), t.output) := by
  rw [perform_write] at h
  rcases hcall : s.output.call call with ⟨fault | ⟨⟩, w⟩
  · rw [hcall] at h
    cases h
  · rw [hcall] at h
    cases h
    rfl

/-- The end of a document leaves no start tag open. -/
theorem finish_done (h : finish.perform s = (.ok (), t)) :
    t.output.pending = none ∧ t.output.stage = .finished := by
  unfold finish at h
  rw [perform_bind] at h
  rcases hend : (Action.write Writer.endElement).perform s with ⟨fault | ⟨⟩, s₁⟩
  · rw [hend] at h
    cases h
  rw [hend] at h
  dsimp only at h
  rw [perform_bind] at h
  rcases hfinish : (Action.write Writer.endDocument).perform s₁ with ⟨fault | ⟨⟩, s₂⟩
  · rw [hfinish] at h
    cases h
  rw [hfinish] at h
  cases h
  obtain ⟨-, hstage, hpending⟩ := Writer.starts_endDocument (of_write hfinish)
  exact ⟨hpending (Writer.starts_endElement (of_write hend)).2, hstage⟩

theorem body_shows (hs : Shows s) (h : (body src skipping).perform s = (.ok tally, t)) :
    Shows t ∧ t.tally = tally := by
  rw [body_eq, perform_bind] at h
  rcases hprologue : (prologue src).perform s with ⟨fault | ⟨⟩, u⟩
  · rw [hprologue] at h
    cases h
  · rw [hprologue] at h
    have hnode : ¬("node" = rootName ∨ Inner "node") := not_or.mpr ⟨by decide, not_inner_node⟩
    have hvalue : ¬("value" = rootName ∨ Inner "value") := not_or.mpr ⟨by decide, not_inner_value⟩
    exact Walk.shows_run ((composed_prologue src).shows hnode hvalue hs hprologue) h

/-- **A conversion that succeeds** has shown what it has counted, and its document is finished. -/
theorem convert_shows (hs : Shows c.session)
    (h : after (convert src skipping) c = (.ok tally, c')) :
    Shows c'.session ∧ c'.session.tally = tally ∧ c'.session.output.pending = none ∧
      c'.session.output.stage = .finished := by
  rcases hbody : (body src skipping).perform c.session with ⟨fault | other, t⟩
  · rw [convert_of_error hbody, after_giveUp] at h
    cases hclose : src.close with
    | ok _ =>
      rw [hclose] at h
      cases h
    | error other =>
      rw [hclose] at h
      dsimp only at h
      split at h <;> cases h
  · obtain ⟨hshows, htally⟩ := body_shows hs hbody
    rw [convert_of_ok hbody, after_bind, after_close] at h
    cases hclose : src.close with
    | error fault =>
      rw [hclose] at h
      cases h
    | ok _ =>
      rw [hclose] at h
      dsimp only at h
      rw [completion, after_bind, after_report] at h
      dsimp only [closed] at h
      rcases hfinish : finish.perform t with ⟨fault | ⟨⟩, u⟩
      · rw [hfinish] at h
        cases h
      · rw [hfinish] at h
        cases h
        have hkept := (composed_finish.trail t).tally
        rw [hfinish] at hkept
        have hend := composed_finish.shows not_inner_node not_inner_value hshows hfinish
        have hdone := finish_done hfinish
        exact ⟨⟨hend.nodes, hend.values, hend.unmixed⟩, hkept.trans htally, hdone⟩

/-! ## All four -/

/-- Whether the four books of a run agree: the tally, the records of its policy, its warnings and
the elements of its document. -/
structure Agrees (verbose : Bool) (tally : Tally) (s : Session Writer) : Prop where
  nodes : elementCount "node" s.output.markup = tally.nodes
  values : elementCount "value" s.output.markup = tally.values
  /-- The document is the markup that was handed to the device, if the device takes it. -/
  document : ∀ b, s.output.bytes? = some b → b = s.output.encode s.output.markup
  skipped : s.policy.skipped.length = tally.skipped
  listings : s.policy.records.toList.countP (·.operation.isListing) = tally.skipped
  warnings : s.diagnostics.toList.filterMap Diagnostic.warning? =
    if verbose then s.policy.records.toList.map Policy.Entry.warning else []

theorem shows_opening {config : Config} {device : Device} (hdevice : device.held = [])
    (policy : Policy) (trace : List LogLine) : Shows (opening config device policy trace) := by
  have hstarted : (opening config device policy trace).output.started = [] := by
    rw [opening, Writer.started, Writer.markup]
    dsimp only
    rw [hdevice]
    rfl
  refine ⟨?_, ?_, fun _ _ => rfl⟩
  · rw [hstarted]
    rfl
  · rw [hstarted]
    rfl

/-- Letting a finished document go leaves the session as it is. -/
theorem run_of_finished (h : after (convert src skipping) c = (.ok tally, c'))
    (hstage : c'.session.output.stage = .finished) : run src skipping c = (.ok tally, c') := by
  have hrelease : c'.session.output.call Writer.release = (.ok (), c'.session.output) := by
    unfold Writer.release
    rw [Writer.call_get_bind]
    dsimp only
    rw [hstage]
    rfl
  have hrun : run src skipping c = ((after (convert src skipping) c).1,
      (after (report (Action.write Writer.release)) (after (convert src skipping) c).2).2) := rfl
  rw [hrun, h, after_report, perform_write, hrelease]

/-- What a writer has started, if no start tag is open. -/
theorem elementCount_markup {w : Writer} (h : w.pending = none) (name : String) :
    elementCount name w.markup = w.started.count name := by
  rw [elementCount, Writer.started, h]
  simp

/-- **The four books agree** behind a conversion that succeeds. -/
theorem run_agrees (hs : c.session.InAccord verbose) (hshows : Shows c.session)
    (h : (run src skipping c).1 = .ok tally) :
    Agrees verbose tally (run src skipping c).2.session := by
  have haccord := run_inAccord src skipping hs
  rw [(run_trail src skipping c).2] at h
  obtain ⟨hend, htally, hpending, hstage⟩ := convert_shows hshows (Prod.ext h rfl)
  rw [run_of_finished (Prod.ext h rfl) hstage] at haccord ⊢
  refine ⟨?_, ?_, fun b hb => Writer.bytes?_of_unmixed hend.unmixed hb, ?_, ?_, haccord.warnings⟩
  · rw [elementCount_markup hpending, hend.nodes, htally]
  · rw [elementCount_markup hpending, hend.values, htally]
  · rw [haccord.skipped, htally]
  · rw [haccord.listings, htally]

/-- **A reader of the document finds the elements** that were counted. -/
theorem run_parses (hshows : Shows c.session) (hblank : c.session.output = blank)
    (h : (run src skipping c).1 = .ok tally) :
    ∃ b root, (run src skipping c).2.session.output.bytes? = some b ∧ parse? b = some root ∧
      elementCount "node" root.tokens = tally.nodes ∧
      elementCount "value" root.tokens = tally.values := by
  have hleaves := convert_leaves src skipping hblank
  rw [(run_trail src skipping c).2] at h
  obtain ⟨hend, htally, hpending, hstage⟩ := convert_shows hshows (Prod.ext h rfl)
  rw [run_of_finished (Prod.ext h rfl) hstage]
  rcases hleaves with ⟨other, root, -, hhive, hwell, hwrote⟩ | ⟨fault, hfault, -⟩
  · have helement : root.IsElement := by
      obtain ⟨time, node, rfl, -⟩ := hhive
      trivial
    have hne : (after (convert src skipping) c).2.session.output.tokens ≠ #[] := by
      intro hempty
      have htokens := hwrote.tokens
      rw [hempty] at htokens
      cases htokens
    have hcount (name : String) : elementCount name root.joined.tokens =
        (after (convert src skipping) c).2.session.output.started.count name := by
      rw [elementCount_joined name helement, ← elementCount_markup hpending,
        Writer.markup_of_unmixed hend.unmixed hne, hwrote.tokens]
      rfl
    refine ⟨encode .utf8 root.document, root.joined, ?_, parse?_document helement hwell, ?_, ?_⟩
    · have hbytes := hwrote.bytes
      rw [Writer.bytes?, if_neg (by rwa [Array.isEmpty_iff])] at hbytes ⊢
      exact congrArg some hbytes
    · rw [hcount, hend.nodes, htally]
    · rw [hcount, hend.values, htally]
  · rw [h] at hfault
    cases hfault

/-- **What is counted, recorded, warned of and shown agrees.** The tally of a walk, for every hive,
visitor and policy and however the walk ends, counts the calls that entered a node, those that told
a value, and the malformed entries that were handed to the policy; so does the tally of a conversion.
Behind a conversion that succeeds under a fresh policy that resumes, the four books agree. -/
theorem books_agree :
    (∀ {δ : Type} (src : Source) (skipping : Bool) (v : Visitor δ) (s : Session δ),
      v.Keeps (fun s => s.tally) → s.tally = {} →
        ((Walk.run src skipping v).perform s).2.tally = Walk.made src skipping v s ∧
          ∀ tally, ((Walk.run src skipping v).perform s).1 = .ok tally →
            tally = Walk.made src skipping v s) ∧
    ∀ (config : Config) (policy : Policy) (device : Device) (src : Source) (trace : List LogLine),
      config.complaints = .ok [] → config.policy = .policy policy →
        let start := opening config device policy trace
        let final := run src config.skipBad { session := start }
        convertWith config device (.ok src, trace) = .of final ∧
          final.2.session.tally = walked src config.skipBad start ∧
          (∀ tally, final.1 = .ok tally → tally = walked src config.skipBad start) ∧
          ∀ verbose tally, policy = { rule := .resume verbose } → device.held = [] →
            final.1 = .ok tally → Agrees verbose tally final.2.session ∧
              (config.encoding = "utf-8" → device = .working →
                ∃ b root, final.2.session.output.bytes? = some b ∧ parse? b = some root ∧
                  elementCount "node" root.tokens = tally.nodes ∧
                  elementCount "value" root.tokens = tally.values) := by
  refine ⟨fun src skipping v s hkeeps hs => Walk.run_tally hkeeps hs,
    fun config policy device src trace hvalid hpolicy => ?_⟩
  intro start final
  obtain ⟨htally, hresult⟩ := run_tally src config.skipBad (c := { session := start }) rfl
  refine ⟨?_, htally, hresult, fun verbose tally hrule hdevice hok => ?_⟩
  · exact (convertWith_eq hvalid hpolicy device src trace).trans (outcome_run src _ _).symm
  · subst hrule
    have hshows : Shows start := shows_opening hdevice _ trace
    refine ⟨run_agrees (inAccord_opening config device verbose trace) hshows hok, ?_⟩
    intro hencoding hworking
    refine run_parses hshows ?_ hok
    change Writer.mk config.encoding device .idle #[] [] none none false = blank
    rw [hencoding, hworking]
    rfl

/-- A hive with a lost cell, a key whose name is no ASCII, and bad entries in both its lists. -/
def worn : MemoryHive :=
  (MemoryHive.build (MemoryHive.create { name := some "root" } (some 0) true)
    (damagedScript ++ [.badValue 0 "bad value", .badChild 0 "bad key"])).hive

theorem events_worn : Walk.events worn.source = Walk.around worn.source worn.root
    (Walk.around worn.source { handle := 0x10B0, name := some "ü" } [] ++
      [.malformed (.reported .malformed "bad key" (some worn.root.handle)) .subkeys worn.root]) :=
  Walk.recursive_unique (Walk.recursive_events worn.source)
    ⟨_, _, .fresh rfl (by decide +kernel) .nil (.bad rfl .nil), rfl⟩

/-- The run of its conversion. -/
def wornRun : Except Fault Tally × Conversion :=
  run worn.source true { session := opening (.salvage true) .working .standard [] }

theorem result_wornRun : wornRun.1 = .ok ⟨2, 1, 2⟩ := by
  unfold wornRun run convert body Walk.run
  rw [events_worn]
  decide +kernel

theorem books_agree_worn :
    (Config.salvage true).complaints = .ok [] ∧
      (Config.salvage true).policy = .policy { rule := .resume true } ∧ wornRun.1 = .ok ⟨2, 1, 2⟩ ∧
      Agrees true ⟨2, 1, 2⟩ wornRun.2.session ∧
      (∃ b root, wornRun.2.session.output.bytes? = some b ∧ parse? b = some root ∧
        elementCount "node" root.tokens = 2 ∧ elementCount "value" root.tokens = 1) ∧
      Walk.silent.Keeps (fun s => s.tally) ∧
      ((Walk.run worn.source true Walk.silent).perform ⟨(), .standard, {}, #[]⟩).2.tally =
        Walk.made worn.source true Walk.silent ⟨(), .standard, {}, #[]⟩ := by
  have hvalid : (Config.salvage true).complaints = .ok [] := complaints_standard
  have hkeeps : Walk.silent.Keeps (fun s => s.tally) :=
    ⟨fun _ _ => rfl, fun _ _ _ => rfl, fun _ _ => rfl⟩
  obtain ⟨-, -, -, hagrees⟩ :=
    books_agree.2 (.salvage true) { rule := .resume true } .working worn.source [] hvalid rfl
  obtain ⟨hbooks, hparses⟩ := hagrees true ⟨2, 1, 2⟩ rfl rfl result_wornRun
  exact ⟨hvalid, rfl, result_wornRun, hbooks, hparses rfl rfl, hkeeps,
    (books_agree.1 worn.source true Walk.silent ⟨(), .standard, {}, #[]⟩ hkeeps rfl).1⟩

end Conversion

end HiveDump
