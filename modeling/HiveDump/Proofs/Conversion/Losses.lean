import HiveDump.Proofs.Conversion.Insertions
import HiveDump.Proofs.Memory.Thinning
import HiveDump.Proofs.Report.Converted

/-!
# Losses stay where they are

If the conversion of a hive succeeds, it succeeds whatever handles are not recognised and whatever
data cells are lost, under a policy that never raises. The document is the same but for the times
and byte runs that the losses take away (`Report.thin`): nothing around them is touched, and every
loss that the walk comes to is recorded. Only a policy with time stamps of its own puts something in
their place, in the nodes that are not recognised (`Report.Loses`).

Results:
* `brings_prologue`, `brings_finish`: the start and the end of a document in any encoding;
* `body_losing`, `convert_losing`: contents and conversions with any losses;
* **`losses_stay_local`**: the result, the document and the records of a hive with losses, told from
  those of the hive without them.
-/

namespace HiveDump

open Report Markup Markup.Tree Walk

namespace Conversion

open MemoryHive HiveDump.Action

variable {src : Source} {label : String} {cs : Charset} {skipping : Bool} {s : Session Writer}
  {ticks : Option Int} {more : List Policy.Submission} {change : Tally → Tally} {ts : List Tree}

/-! ## Contents of documents -/

theorem brings_prologue (h : Writer.Usable label cs) (hlast : src.lastModified = .ok ticks) :
    Brings (· = { label := label }) (prologue src) [] ()
      (Stands label (opened.add (timeShown ticks))) := by
  have hroot : Brings (Stands label {}) (Action.write (Writer.startElement rootName)) [] ()
      (Stands label opened) :=
    (brings_startElement (by decide)).imp (fun _ hw => hw) fun _ hw => hw.stands
  have hinner : opened.outer ≠ [] := outer_ne_nil_of_rooted rooted_opened
  unfold prologue
  rw [hlast]
  exact (brings_startDocument h).first <| hroot.first <| (brings_ask ticks id).first
    (brings_timeElement hinner ticks).discard

theorem usable_of_prologue {t : Session Writer} (hstart : s.output = { label := label })
    (h : (prologue src).perform s = (.ok (), t)) : ∃ cs, Writer.Usable label cs := by
  unfold prologue at h
  rw [perform_bind, perform_write, hstart] at h
  rcases hcall : ({ label := label } : Writer).call Writer.startDocument with ⟨fault | _, w⟩
  · rw [hcall] at h
    cases h
  · exact Writer.usable_of_startDocument hcall

/-- A walk that comes to its end. -/
theorem body_of_passes (h : Writer.Usable label cs) (hlast : src.lastModified = .ok ticks)
    (hstart : s.output = { label := label }) (hp : s.policy.NeverRaises)
    {left : Policy → List Tree}
    (hadds : Contributes label src skipping (events src) more change left) :
    ∃ w ds, (body src skipping).perform s =
        (.ok (change s.tally), ⟨w, s.policy.after more, change s.tally, ds⟩) ∧
      Stands label (opened.add (timeShown ticks ++ left s.policy)) w := by
  obtain ⟨w, hdoes, hw⟩ := brings_prologue h hlast s.output hstart
  obtain ⟨ds, hprologue⟩ := hdoes.perform hp
  obtain ⟨w', ds', htold, hw'⟩ := hadds _ (rooted_opened.add _) ⟨w, s.policy, s.tally, ds⟩ hw hp
  obtain ⟨ds'', htally⟩ := perform_tellTally
    (⟨w', s.policy.after more, change s.tally, ds'⟩ : Session Writer)
  refine ⟨w', ds'', ?_, ?_⟩
  · have hevents : ((events src).forM (step skipping (visitor src))).perform
        ⟨w, s.policy.after [], s.tally, ds⟩ = _ := htold
    rw [perform_body_of_ok hprologue, perform_bind, hevents]
    exact htally
  · simpa only [Growing.add_add] using hw'

/-- A walk that does not. -/
theorem body_of_breaks (h : Writer.Usable label cs) (hlast : src.lastModified = .ok ticks)
    (hstart : s.output = { label := label }) (hp : s.policy.NeverRaises)
    (hbreaks : BreaksOff label src skipping (events src)) :
    ∃ fault t, (body src skipping).perform s = (.error fault, t) := by
  obtain ⟨w, hdoes, hw⟩ := brings_prologue h hlast s.output hstart
  obtain ⟨ds, hprologue⟩ := hdoes.perform hp
  obtain ⟨fault, t, htold⟩ := hbreaks _ (rooted_opened.add _) ⟨w, s.policy, s.tally, ds⟩ hw hp
  refine ⟨fault, t, ?_⟩
  have hevents : ((events src).forM (step skipping (visitor src))).perform
      ⟨w, s.policy.after [], s.tally, ds⟩ = _ := htold
  rw [perform_body_of_ok hprologue, perform_bind, hevents]

/-! ## Whole conversions -/

/-- Whether a writer has written the document of a root in its encoding. -/
def Holds (label : String) (root : Tree) (w : Writer) : Prop :=
  w.label = label ∧ w.tokens.toList = .declaration label :: root.tokens

theorem Holds.bytes {root : Tree} {w : Writer} (hw : Holds label root w)
    (hcharset : Charset.ofLabel? label = some cs) :
    w.bytes? = some (Markup.encode cs (.declaration label :: root.tokens)) := by
  obtain ⟨hlabel, htokens⟩ := hw
  have hne : w.tokens.isEmpty = false := by
    rw [← Array.isEmpty_toList, htokens]
    rfl
  rw [Writer.bytes?, hne, Writer.encode, hlabel, hcharset, htokens]
  rfl

theorem brings_finish :
    Brings (Stands label (opened.add ts)) finish [] () (Holds label (.element rootName [] ts)) := by
  have hroot : Brings (Stands label (opened.add ts)) (Action.write Writer.endElement) [] ()
      (Writer.Done label (.element rootName [] ts)) :=
    .write fun _ hw => Writer.At.endRoot hw
  have hdocument : Brings (Writer.Done label (.element rootName [] ts))
      (Action.write Writer.endDocument) [] () (Holds label (.element rootName [] ts)) :=
    .write fun _ hw => ⟨_, hw.call_endDocument, hw.label, hw.tokens⟩
  exact hroot.first <| hdocument.first (brings_log _)

/-- Behind a content that is complete, and if the hive closes, nothing fails. -/
theorem convert_of_body {tally : Tally} {t : Session Writer}
    (hbody : (body src skipping).perform s = (.ok tally, t)) (hp : t.policy.NeverRaises)
    (hclose : src.close = .ok ()) (hstands : Stands label (opened.add ts) t.output) :
    ∃ c, after (convert src skipping) { session := s } = (.ok tally, c) ∧
      c.session.policy = t.policy ∧ Holds label (.element rootName [] ts) c.session.output := by
  obtain ⟨w, hdoes, hw⟩ := brings_finish t.output hstands
  obtain ⟨ds, hfinish⟩ := hdoes.perform hp
  have hclosed : (finish.perform (closed src { session := t }).session) = _ := hfinish
  rw [convert_of_ok (c := { session := s }) hbody, after_bind, after_close, hclose]
  dsimp only
  unfold completion
  rw [after_bind, after_report, hclosed]
  exact ⟨_, rfl, rfl, hw⟩

/-- **The content of a document** that is complete is complete with any losses. -/
theorem body_losing {h : MemoryHive} (hi : h.Intact) (hr : h.Recorded)
    (hstart : s.output = { label := label }) (hp : s.policy.NeverRaises) {tally : Tally}
    {t : Session Writer} (hok : (body h.source skipping).perform s = (.ok tally, t)) :
    ∃ cs given ts, Writer.Usable label cs ∧
      shownIn (.element rootName [] ts) = (events h.source).filterMap Event.shown? ∧
      ∀ losses : Losses, ∃ more left w ds,
        more.Perm (given ++ (events h.source).flatMap losses.given) ∧
        LosesAll s.policy.Stamps losses ts left ∧
        (body (h.losing losses).source skipping).perform s =
          (.ok tally, ⟨w, s.policy.after more, tally, ds⟩) ∧
        Stands label (opened.add left) w := by
  obtain ⟨cs, husable⟩ : ∃ cs, Writer.Usable label cs := by
    rcases hprologue : (prologue h.source).perform s with ⟨fault | _, u⟩
    · rw [perform_body_of_error hprologue] at hok
      cases hok
    · exact usable_of_prologue hstart hprologue
  have hlast (losses : Losses) :
      (h.losing losses).source.lastModified = .ok h.lastModified := rfl
  have hthins : h.Thins label skipping "node" (events h.source) := thins_events hi hr
  rcases hthins with ⟨given, change, ts, hts⟩ | hbreaks
  · have hbody (losses : Losses) : ∃ more left w ds,
        more.Perm (given ++ (events h.source).flatMap losses.given) ∧
        LosesAll s.policy.Stamps losses (timeShown h.lastModified ++ ts) left ∧
        (body (h.losing losses).source skipping).perform s =
          (.ok (change s.tally), ⟨w, s.policy.after more, change s.tally, ds⟩) ∧
        Stands label (opened.add left) w := by
      obtain ⟨more, left, hperm, hleft, hadds⟩ := hts.contributes losses
      rw [← events_losing h losses] at hadds
      obtain ⟨w, ds, hbody, hw⟩ := body_of_passes husable (hlast losses) hstart hp hadds
      exact ⟨more, _, w, ds, hperm, (losesAll_time _).append (hleft _), hbody, hw⟩
    have htally : tally = change s.tally := by
      obtain ⟨more, left, w, ds, -, -, hwhole, -⟩ := hbody {}
      rw [losing_nothing hi, hok] at hwhole
      exact Except.ok.inj (congrArg Prod.fst hwhole)
    subst htally
    exact ⟨cs, given, timeShown h.lastModified ++ ts, husable,
      (shownIn_root _ hts.named).trans hts.shown, hbody⟩
  · have hlast' : h.source.lastModified = .ok h.lastModified := rfl
    obtain ⟨fault, u, herror⟩ := body_of_breaks husable hlast' hstart hp hbreaks
    rw [hok] at herror
    cases herror

/-- **Whole conversions** with any losses. -/
theorem convert_losing {h : MemoryHive} (hi : h.Intact) (hr : h.Recorded)
    (hstart : s.output = { label := label }) (hp : s.policy.NeverRaises) {tally : Tally}
    {c : Conversion} (hok : after (convert h.source skipping) { session := s } = (.ok tally, c)) :
    ∃ cs given root, Charset.ofLabel? label = some cs ∧
      shownIn root = (events h.source).filterMap Event.shown? ∧
      ∀ losses : Losses, ∃ more left c',
        more.Perm (given ++ (events h.source).flatMap losses.given) ∧
        Loses s.policy.Stamps losses root left ∧
        after (convert (h.losing losses).source skipping) { session := s } = (.ok tally, c') ∧
        c'.session.policy = s.policy.after more ∧ Holds label left c'.session.output := by
  rcases hbody : (body h.source skipping).perform s with ⟨fault | tally', t⟩
  · rw [convert_of_error (c := { session := s }) hbody, after_giveUp] at hok
    split at hok
    · cases hok
    · split at hok <;> cases hok
  · rw [convert_of_ok (c := { session := s }) hbody, after_bind, after_close] at hok
    cases hclose : h.source.close with
    | error fault =>
      rw [hclose] at hok
      cases hok
    | ok _ =>
      obtain ⟨cs, given, ts, husable, hshown, hbodies⟩ := body_losing hi hr hstart hp hbody
      have hconvert (losses : Losses) : ∃ more left c',
          more.Perm (given ++ (events h.source).flatMap losses.given) ∧
          Loses s.policy.Stamps losses (.element rootName [] ts) left ∧
          after (convert (h.losing losses).source skipping) { session := s } = (.ok tally', c') ∧
          c'.session.policy = s.policy.after more ∧ Holds label left c'.session.output := by
        obtain ⟨more, left, w, ds, hperm, hleft, hbody', hw⟩ := hbodies losses
        have hopen : (h.losing losses).source.close = .ok () := hclose
        obtain ⟨c', hafter, hpolicy, hholds⟩ :=
          convert_of_body hbody' (hp.after more) hopen hw
        exact ⟨more, _, c', hperm, loses_root hleft, hafter, hpolicy, hholds⟩
      have htally : tally = tally' := by
        obtain ⟨more, left, c', -, -, hafter, -, -⟩ := hconvert {}
        rw [losing_nothing hi, convert_of_ok (c := { session := s }) hbody, after_bind, after_close,
          hok] at hafter
        exact Except.ok.inj (congrArg Prod.fst hafter)
      subst htally
      exact ⟨cs, given, .element rootName [] ts, husable.charset, hshown, hconvert⟩

/-- What conversions from a configuration leave behind with any losses. -/
theorem convertWith_losing {h : MemoryHive} (hi : h.Intact) (hr : h.Recorded) {config : Config}
    {policy : Policy} (hpolicy : config.policy = .policy policy) (hp : policy.NeverRaises)
    {trace : List LogLine} {tally : Tally}
    (hok : (convertWith config .working (.ok h.source, trace)).result = .ok tally) :
    ∃ cs given root, Charset.ofLabel? config.encoding = some cs ∧
      shownIn root = (events h.source).filterMap Event.shown? ∧
      ∀ losses : Losses, ∃ more left c,
        more.Perm (given ++ (events h.source).flatMap losses.given) ∧
        Loses policy.Stamps losses root left ∧
        convertWith config .working (.ok (h.losing losses).source, trace) = .of (.ok tally, c) ∧
        c.session.policy = policy.after more ∧
        c.session.output.bytes? =
          some (Markup.encode cs (.declaration config.encoding :: left.tokens)) := by
  cases hstart : hindrance? config (.ok h.source, trace) with
  | some hindered =>
    rw [convertWith_of_hindrance hstart] at hok
    cases hok
  | none =>
    obtain ⟨hvalid, -, -⟩ := hindrance?_eq_none hstart
    have hs : (opening config .working policy trace).policy.NeverRaises := hp
    rcases hc : after (convert h.source config.skipBad)
      { session := opening config .working policy trace } with ⟨result, c⟩
    rw [convertWith_eq hvalid hpolicy, hc] at hok
    obtain rfl : result = .ok tally := hok
    obtain ⟨cs, given, root, hcharset, hshown, hconvert⟩ := convert_losing hi hr rfl hs hc
    refine ⟨cs, given, root, hcharset, hshown, fun losses => ?_⟩
    obtain ⟨more, left, c', hperm, hleft, hafter, hrecords, hholds⟩ := hconvert losses
    refine ⟨more, left, c', hperm, hleft, ?_, hrecords, hholds.bytes hcharset⟩
    rw [convertWith_eq hvalid hpolicy, hafter]

/-- **Losses stay where they are.** If the conversion of a hive succeeds under a policy that never
raises, all handles recognised and no data cell lost, then it succeeds with the same tally whatever
handles are not recognised and whatever data cells are lost. The document is that of the hive
without losses but for the times and byte runs of the nodes and values concerned; the handles that
it shows are those of all nodes and values that the walk has met. Two faults more are recorded for
each of these nodes, and one for each of these values. All of this is about output that takes
everything.

A policy may answer with a time stamp where a node that is not recognised is asked for its own. It
then stands in that node (`Loses`), and only there; a policy that answers nothing, as every rule
does, leaves the node without one (`thin`).

The hive must have a record of every value in its lists, which every hive has that a script has
built. -/
theorem losses_stay_local :
    (∀ (root : NewKey) (lastModified : Option Int) (resumable : Bool)
        (steps : List MemoryHive.Step),
      (build (create root lastModified resumable) steps).hive.Recorded) ∧
    ∀ (h : MemoryHive), h.Intact → h.Recorded → ∀ (config : Config) (policy : Policy),
      config.policy = .policy policy → policy.NeverRaises →
      ∀ (trace : List LogLine) (tally : Tally),
      (convertWith config .working (.ok h.source, trace)).result = .ok tally →
      ∀ losses : Losses,
        let before := convertWith config .working (.ok h.source, trace)
        let behind := convertWith config .working (.ok (h.losing losses).source, trace)
        behind.result = .ok tally ∧
          (∃ cs root left, Charset.ofLabel? config.encoding = some cs ∧
            before.document =
              some (Markup.encode cs (.declaration config.encoding :: root.tokens)) ∧
            behind.document =
              some (Markup.encode cs (.declaration config.encoding :: left.tokens)) ∧
            Loses policy.Stamps losses root left ∧
            (policy.AnswersNothing → left = thin losses root) ∧
            shownIn root = (events h.source).filterMap Event.shown?) ∧
          ∃ p p', before.policy = some p ∧ behind.policy = some p' ∧
            p'.records.toList.Perm (p.records.toList ++
              ((events h.source).flatMap losses.given).map Policy.Submission.entry) ∧
            p'.records.size = p.records.size + 2 * (events h.source).countP losses.hitsNode +
              (events h.source).countP losses.hitsValue := by
  refine ⟨fun root lastModified resumable steps =>
    recorded_build (recorded_create root lastModified resumable) steps, ?_⟩
  intro h hi hr config policy hpolicy hp trace tally hok losses before behind
  obtain ⟨cs, given, root, hcharset, hshown, houtcome⟩ := convertWith_losing hi hr hpolicy hp hok
  obtain ⟨more, whole, c, hperm, hwhole, hbefore, hrecords, hbytes⟩ := houtcome {}
  obtain ⟨more', left, c', hperm', hleft, hbehind, hrecords', hbytes'⟩ := houtcome losses
  obtain rfl : whole = root :=
    (hwhole.eq_thin fun _ hlost => absurd hlost List.not_mem_nil).trans (thin_nothing root)
  rw [losing_nothing hi] at hbefore
  rw [Losses.given_nothing, List.append_nil] at hperm
  have hmore : more'.Perm (more ++ (events h.source).flatMap losses.given) :=
    hperm'.trans (hperm.symm.append_right _)
  have hentries : (policy.after more').records.toList.Perm ((policy.after more).records.toList ++
      ((events h.source).flatMap losses.given).map Policy.Submission.entry) := by
    rw [hp.records_after, hp.records_after, List.append_assoc, ← List.map_append]
    exact (hmore.map _).append_left _
  have hnothing (hanswers : policy.AnswersNothing) : left = thin losses whole := by
    refine hleft.eq_thin ?_
    rintro handle - time ⟨n, -, hanswer⟩
    rw [hanswers _ time hanswer]
    rfl
  refine ⟨congrArg Outcome.result hbehind,
    ⟨cs, whole, left, hcharset, ?_, ?_, hleft, hnothing, hshown⟩,
    policy.after more, policy.after more', ?_, ?_, hentries, ?_⟩
  · exact (congrArg Outcome.document hbefore).trans hbytes
  · exact (congrArg Outcome.document hbehind).trans hbytes'
  · exact (congrArg Outcome.policy hbefore).trans (congrArg some hrecords)
  · exact (congrArg Outcome.policy hbehind).trans (congrArg some hrecords')
  · have hsize := hentries.length_eq
    rw [List.length_append, List.length_map, Losses.length_given, Array.length_toList,
      Array.length_toList, ← Nat.add_assoc] at hsize
    exact hsize

/-- The hive of `damaged` with its data cell back. -/
def mended : MemoryHive :=
  (damaged false).losing {}

/-- Its root is not recognised, and the data cell of its value is lost. -/
def rootAndValue : Losses :=
  { handles := [0x1020], cells := [0x1078] }

theorem result_mended :
    (convertWith {} .working (.ok mended.source, [])).result =
      .ok { nodes := 2, values := 1, skipped := 0 } := by
  unfold convertWith
  rw [complaints_standard]
  dsimp only
  unfold run convert body Walk.run
  rw [mended, events_losing, events_damaged]
  decide +kernel

theorem losses_stay_local_mended :
    mended.Intact ∧ mended.Recorded ∧ Policy.standard.NeverRaises ∧
      ∃ tally cs root p p',
        (convertWith {} .working (.ok mended.source, [])).result = .ok tally ∧
        (convertWith {} .working (.ok (mended.losing rootAndValue).source, [])).result =
          .ok tally ∧
        (convertWith {} .working (.ok (mended.losing rootAndValue).source, [])).document =
          some (Markup.encode cs (.declaration "utf-8" :: (thin rootAndValue root).tokens)) ∧
        shownIn root = [("node", 0x1020), ("value", 0x1078), ("node", 0x10B0)] ∧
        (convertWith {} .working (.ok mended.source, [])).policy = some p ∧
        (convertWith {} .working (.ok (mended.losing rootAndValue).source, [])).policy = some p' ∧
        p'.records.size = p.records.size + 3 := by
  have hi : mended.Intact := ⟨rfl, rfl, fun _ => rfl⟩
  have hr : mended.Recorded :=
    (recorded_build (recorded_create _ _ _) damagedScript).of_keys rfl rfl
  have hp := Policy.neverRaises_standard
  obtain ⟨hresult, ⟨cs, root, left, -, -, hdocument, -, hthin, hshown⟩, p, p', hpolicy, hpolicy',
    -, hsize⟩ :=
    losses_stay_local.2 mended hi hr {} .standard rfl hp [] _ result_mended rootAndValue
  rw [hthin (Policy.answersNothing_of_judge_none rfl)] at hdocument
  have hevents : events mended.source = _ := (events_losing _ _).trans (events_damaged false)
  rw [hevents] at hshown hsize
  have hnodes : (around (damaged false).source (damaged false).root
      (around (damaged false).source { handle := 0x10B0, name := some "ü" } [])).countP
        rootAndValue.hitsNode = 1 := by decide +kernel
  have hvalues : (around (damaged false).source (damaged false).root
      (around (damaged false).source { handle := 0x10B0, name := some "ü" } [])).countP
        rootAndValue.hitsValue = 1 := by decide +kernel
  rw [hnodes, hvalues] at hsize
  exact ⟨hi, hr, hp, _, cs, root, p, p', result_mended, hresult, hdocument,
    hshown.trans (by decide +kernel), hpolicy, hpolicy', hsize⟩

/-- The report on it, with what is said of the root and of the place of its value. -/
def mendedReport (front place : List Tree) : Tree :=
  .element rootName [] [.element "node" [⟨"name", "root"⟩, rootMark] (front ++
    [.element "value" [⟨"type", "string-list"⟩, ⟨"key", "texts"⟩]
      ([entryTree (some "one"), entryTree none] ++ place),
    .element "node" [⟨"name_encoding", "base64"⟩, ⟨"name", "w7w="⟩]
      [runsTree [(0x10B0, 81)]]])]

/-- A policy with a time stamp of its own puts it into the root that is not recognised; the hive
without losses has no time there. -/
theorem losses_dated_mended :
    let config : Config := { policy := .policy (.dated 116444736000000000) }
    let before := convertWith config .working (.ok mended.source, [])
    let behind := convertWith config .working (.ok (mended.losing rootAndValue).source, [])
    let root := mendedReport [runsTree [(0x1020, 84)]] [runsTree [(0x1078, 29), (0x10A0, 14)]]
    let left := mendedReport [.element "mtime" [] [.text "1970-01-01T00:00:00Z"]] []
    mended.Intact ∧ (Policy.dated 116444736000000000).NeverRaises ∧
      before.result = .ok { nodes := 2, values := 1, skipped := 0 } ∧
      before.document = some (Markup.encode .utf8 (.declaration "utf-8" :: root.tokens)) ∧
      behind.document = some (Markup.encode .utf8 (.declaration "utf-8" :: left.tokens)) ∧
      Token.startTag "mtime" [] ∉ root.tokens ∧ Token.startTag "mtime" [] ∈ left.tokens := by
  intro config before behind root left
  have hvalid : config.complaints = .ok [] := complaints_standard
  have hbefore : before.result = .ok { nodes := 2, values := 1, skipped := 0 } ∧
      before.document = some (Markup.encode .utf8 (.declaration "utf-8" :: root.tokens)) := by
    rw [show before = _ from convertWith_eq hvalid rfl _ _ _]
    unfold convert body Walk.run
    rw [mended, events_losing, events_damaged]
    decide +kernel
  have hbehind : behind.document =
      some (Markup.encode .utf8 (.declaration "utf-8" :: left.tokens)) := by
    rw [show behind = _ from convertWith_eq hvalid rfl _ _ _]
    unfold convert body Walk.run
    rw [events_losing, mended, events_losing, events_damaged]
    decide +kernel
  exact ⟨⟨rfl, rfl, fun _ => rfl⟩, Policy.neverRaises_dated _, hbefore.1, hbefore.2, hbehind,
    by decide, by decide⟩

end Conversion

end HiveDump
