import HiveDump.Proofs.Image.Values
import HiveDump.Proofs.Report.Outcome
import HiveDump.Walk.Callback

/-!
# The callbacks of a conversion

Wherever a walk calls the report, the document so far ends inside its root, below as many nodes as
the walk is deep (`Deep`). From there the writer refuses no call: every start tag, attribute, text
and end tag comes where it may stand, and is made of characters that may be written. So a fault of
the writer is none of the report's own: if a callback ends with one, the policy's judge has raised
it or the hive has given it as an answer (`Source.Answers`).

Results:
* **`yields_on`**, `yields_told`: the document stays in order at every call, and along a walk;
* `nodeStart_fault`, `value_fault`, **`raises_or_answers`**: the faults of callbacks;
* `HiveFile.not_answers_writing`, `MemoryHive.answers_writing`: no answer is a fault of the writer,
  unless a caller has put it there;
* **`callbacks_write`**: what holds around every callback of a conversion.
-/

namespace HiveDump

/-- What a visitor does at a call. -/
def Visitor.on {δ : Type} (v : Visitor δ) : Callback → Action δ Unit
  | .enter n => v.enter n
  | .value n w => v.value n w
  | .leave n => v.leave n

/-- Whether a question about a node or value of a hive is answered with this fault. -/
inductive Source.Answers (src : Source) (fault : Fault) : Prop
  | timestamp {n : Node} (h : src.timestamp n = .error fault)
  | nodeLength {n : Node} (h : src.nodeLength n = .error fault)
  | valueLength {v : Value} (h : src.valueLength v = .error fault)
  | dataCell {v : Value} (h : src.dataCell v = .error fault)

namespace Report

open HiveDump.Action Markup Markup.Tree Walk

variable {src : Source} {skipping : Bool} {g : Growing} {encoding : String} {d d' : Nat}
  {evs : List Event} {ev : Event} {fault : Fault} {s t : Session Writer} {n : Node} {v : Value}

/-! ## The document around a callback -/

/-- Whether the document so far ends inside its root, below this many nodes. -/
def Deep (depth : Nat) (w : Writer) : Prop :=
  ∃ g : Growing, g.Rooted rootName [] ∧ g.outer.map (·.1) = nodesOpen depth ∧ Page g w

theorem Deep.cut {w : Writer} (h : Deep d w) : Cut w := by
  obtain ⟨g, hroot, -, hpage⟩ := h
  exact ⟨g, hroot, hpage⟩

theorem nodesOpen_succ (depth : Nat) : nodesOpen (depth + 1) = "node" :: nodesOpen depth := by
  rw [nodesOpen, List.replicate_succ, List.cons_append]
  rfl

/-- A node is left: its element is closed, and what is open around it stays open. -/
theorem yields_nodeEnd : Yields (Deep (d + 1)) nodeEnd (fun _ => Deep d) fun _ => False := by
  refine .write fun w hw => ?_
  obtain ⟨g, hroot, hnames, hpage⟩ := hw
  have hlength : 2 ≤ g.outer.length := by
    have hmap := congrArg List.length hnames
    rw [List.length_map, nodesOpen, List.length_append, List.length_replicate,
      List.length_singleton] at hmap
    omega
  obtain ⟨around, name, attributes, ts, rfl, haround, -⟩ := hroot.exists_opened hlength
  rw [nodesOpen_succ] at hnames
  obtain ⟨rfl, hbelow⟩ : name = "node" ∧ around.outer.map (·.1) = nodesOpen d :=
    List.cons_eq_cons.mp hnames
  obtain ⟨w', hcall, hpage'⟩ := Writer.At.endElement hpage (outer_ne_nil_of_rooted haround)
    ⟨by decide, by decide⟩
  exact ⟨(), w', hcall, _, haround.add _, hbelow, hpage'⟩

/-- **The document stays in order at every call**, and where the call fails. -/
theorem yields_on {call : Callback} (h : ev.depth? d = some d') (hcall : ev.callback? = some call) :
    Yields (Deep d) ((visitor src).on call) (fun _ => Deep d') Cut := by
  cases ev with
  | enter n =>
    cases h
    cases hcall
    refine .of_exists fun g => .of_and fun hroot => .of_and fun hnames => ?_
    refine (yields_nodeStart hroot src n).imp_post ?_
    rintro _ w ⟨attributes, time, runs, -, hpage⟩
    refine ⟨_, (hroot.opened "node" attributes).add _, ?_, hpage⟩
    rw [nodesOpen_succ, ← hnames]
    rfl
  | value n v =>
    cases h
    cases hcall
    refine .of_exists fun g => .of_and fun hroot => .of_and fun hnames => ?_
    refine (yields_value hroot src v).imp_post ?_
    rintro _ w ⟨ts, -, hpage⟩
    exact ⟨_, hroot.add ts, hnames, hpage⟩
  | leave n =>
    cases hcall
    cases d with
    | zero => cases h
    | succ depth =>
      cases h
      exact yields_nodeEnd.imp_fail fun _ => False.elim
  | note line => cases hcall
  | malformed fault list n => cases hcall
  | failed fault => cases hcall

/-- The document stays in order behind an event. -/
theorem yields_step (src : Source) (skipping : Bool) (h : ev.depth? d = some d') :
    Yields (Deep d) (step skipping (visitor src) ev) (fun _ => Deep d') Cut := by
  have hsilent (hs : Silent ev) :
      Yields (Deep d) (step skipping (visitor src) ev) (fun _ => Deep d) Cut :=
    (yields_silent hs).imp_fail fun _ => Deep.cut
  cases ev with
  | enter n => exact (yields_count _).bind fun _ => yields_on h rfl
  | value n v => exact (yields_count _).bind fun _ => yields_on h rfl
  | leave n => exact yields_on h rfl
  | note line =>
    cases h
    exact hsilent trivial
  | malformed fault list n =>
    cases h
    exact hsilent trivial
  | failed fault =>
    cases h
    exact hsilent trivial

/-- The document stays in order along a stretch of a walk. -/
theorem yields_told (src : Source) (skipping : Bool) (h : depthBehind? evs d = some d') :
    Yields (Deep d) (told src skipping evs) (fun _ => Deep d') Cut := by
  induction evs generalizing d with
  | nil =>
    cases h
    exact .forM_nil fun _ hw => hw
  | cons ev evs ih =>
    rw [depthBehind?_cons] at h
    obtain ⟨depth, hev, hevs⟩ := Option.bind_eq_some_iff.mp h
    exact .forM_cons (yields_step src skipping hev) (ih hevs)

/-! ## Faults of callbacks -/

theorem Page.stands {w : Writer} (h : Page g w) : Stands "utf-8" g w :=
  { h with all := fun _ _ => trivial }

/-- A part that does not survive fails with a fault that ends the report. -/
theorem exists_of_not_survives {α : Type} {x : Except Fault α} (h : ¬Survives x) :
    ∃ fault, x = .error fault ∧ fault.isRecoverable = false := by
  unfold Survives at h
  push Not at h
  obtain ⟨fault, hx, hr⟩ := h
  exact ⟨fault, hx, Bool.eq_false_iff.mpr hr⟩

/-- **Where entering a node fails**, the policy has raised the fault, or asking for the node's time
or place has ended the report. -/
theorem nodeStart_fault (h : Stands encoding g s.output)
    (hfault : (nodeStart src n).perform s = (.error fault, t)) :
    s.policy.Raises fault t.policy ∨ src.timestamp n = .error fault ∨
      nodeRuns src n = .error fault := by
  have hends {other : Fault} (hother : src.timestamp n = .error other ∨
      Survives (src.timestamp n) ∧ nodeRuns src n = .error other)
      (hr : other.isRecoverable = false) : s.policy.Raises fault t.policy ∨ other = fault := by
    obtain ⟨given, w, hdoes⟩ := nodeStart_fails hother hr h s.policy
    exact (hdoes.raises_or hfault).imp_right Except.error.inj
  by_cases hstamp : Survives (src.timestamp n)
  · by_cases hruns : Survives (nodeRuns src n)
    · obtain ⟨w, hdoes, -⟩ := nodeStart_survives hstamp hruns h s.policy
      rcases hdoes.raises_or hfault with hraises | hok
      · exact .inl hraises
      · cases hok
    · obtain ⟨other, hother, hr⟩ := exists_of_not_survives hruns
      rcases hends (.inr ⟨hstamp, hother⟩) hr with hraises | rfl
      · exact .inl hraises
      · exact .inr (.inr hother)
  · obtain ⟨other, hother, hr⟩ := exists_of_not_survives hstamp
    rcases hends (.inl hother) hr with hraises | rfl
    · exact .inl hraises
    · exact .inr (.inl hother)

/-- **Where showing a value fails**, the policy has raised the fault, or the value cannot be shown,
or asking for its place has ended the report. -/
theorem value_fault (h : Stands encoding g s.output) (hinner : g.outer ≠ [])
    (hfault : (value src v).perform s = (.error fault, t)) :
    s.policy.Raises fault t.policy ∨ valueShown v = .error fault ∨
      valueRuns src v = .error fault := by
  cases hshown : valueShown v with
  | error other =>
    have hends : Ends (Stands encoding g) (value src v) other := ends_value hshown
    obtain ⟨given, w, hdoes⟩ := hends s.output h
    rcases (hdoes s.policy).raises_or hfault with hraises | hother
    · exact .inl hraises
    · cases hother
      exact .inr (.inl rfl)
  | ok shown =>
    by_cases hruns : Survives (valueRuns src v)
    · obtain ⟨w, hdoes, -⟩ := brings_value hinner hshown hruns s.output h
      rcases (hdoes s.policy).raises_or hfault with hraises | hok
      · exact .inl hraises
      · cases hok
    · obtain ⟨other, hother, hr⟩ := exists_of_not_survives hruns
      obtain ⟨w, hdoes, -⟩ := fails_value hshown hother hr s.output h
      rcases (hdoes s.policy).raises_or hfault with hraises | hsame
      · exact .inl hraises
      · cases hsame
        exact .inr (.inr hother)

/-! ## Faults of the writer -/

theorem payloadShown_not_writing {shape : Shape} {p : Payload}
    (h : payloadShown shape v p = .error fault) : fault.kind ≠ .writing := by
  have hnumber {bits : Nat} (h : numberShown bits p = .error fault) : fault.kind ≠ .writing := by
    unfold numberShown at h
    split at h
    · cases h
    · cases h
      decide
  cases shape with
  | string =>
    unfold payloadShown at h
    dsimp only at h
    split at h
    · obtain rfl := dataShown_eq_error (Failing.map_eq_error.mp h)
      decide
    · cases h
  | dword => exact hnumber h
  | qword => exact hnumber h
  | _ => cases h

/-- A value that cannot be shown was never given to the writer. -/
theorem valueShown_not_writing (h : valueShown v = .error fault) : fault.kind ≠ .writing := by
  have hshape (h : v.shape = .error fault) : fault.kind ≠ .writing := by
    unfold Value.shape at h
    split at h
    · cases h
    · split at h
      · cases h
      · cases h
        exact FaultKind.noConfusion
  have hstrings (h : v.strings = .error fault) : fault.kind ≠ .writing := by
    unfold Value.strings at h
    split at h
    · split at h <;> cases h
    · cases h
      exact FaultKind.noConfusion
  unfold valueShown at h
  rcases Failing.bind_eq_error.mp h with hpresented | ⟨⟨shape, p⟩, -, h⟩
  · unfold Value.presentation at hpresented
    rcases Failing.bind_eq_error.mp hpresented with h | ⟨shape, -, h⟩
    · exact hshape h
    · cases shape with
      | strings =>
        rcases Failing.bind_eq_error.mp h with h | ⟨ss, -, h⟩
        · exact hstrings h
        · cases h
      | _ => cases h
  rcases Failing.bind_eq_error.mp h with htype | ⟨type, -, h⟩
  · unfold valueType at htype
    split at htype
    · split at htype
      · cases htype
        exact FaultKind.noConfusion
      · cases htype
    · cases htype
      exact FaultKind.noConfusion
  rcases Failing.bind_eq_error.mp h with hpayload | ⟨payload, -, h⟩
  · exact payloadShown_not_writing hpayload
  · cases h

/-- A fault of the writer that is met in front of byte runs is an answer of the hive. -/
theorem answers_of_nodeRuns (h : nodeRuns src n = .error fault) (hkind : fault.kind = .writing) :
    src.Answers fault := by
  unfold nodeRuns at h
  split at h
  · cases h
  next answer hanswer =>
    obtain rfl := Except.error.inj h
    unfold nodeFault at hkind ⊢
    split at hkind
    · cases hkind
    next hk =>
      rw [if_neg hk]
      exact .nodeLength hanswer

theorem answers_of_valueRuns (h : valueRuns src v = .error fault) (hkind : fault.kind = .writing) :
    src.Answers fault := by
  unfold valueRuns at h
  split at h
  next answer hanswer =>
    obtain rfl := Except.error.inj h
    unfold valueFault at hkind ⊢
    split at hkind
    · cases hkind
    next hk =>
      rw [if_neg hk]
      exact .valueLength hanswer
  · split at h
    next answer hanswer =>
      obtain rfl := Except.error.inj h
      unfold cellFault at hkind ⊢
      split at hkind
      all_goals first | cases hkind | exact .dataCell hanswer
    · cases h

/-- **A fault of the writer is none of the report's own**: where a callback ends with one, the
policy has raised it, or the hive has given it as an answer. -/
theorem raises_or_answers {call : Callback} (hdepth : ev.depth? d = some d')
    (hcall : ev.callback? = some call) (h : Deep d s.output)
    (hfault : ((visitor src).on call).perform s = (.error fault, t))
    (hkind : fault.kind = .writing) : s.policy.Raises fault t.policy ∨ src.Answers fault := by
  obtain ⟨g, hroot, -, hpage⟩ := id h
  cases ev with
  | enter n =>
    cases hcall
    rcases nodeStart_fault hpage.stands hfault with hraises | hstamp | hruns
    · exact .inl hraises
    · exact .inr (.timestamp hstamp)
    · exact .inr (answers_of_nodeRuns hruns hkind)
  | value n v =>
    cases hcall
    rcases value_fault hpage.stands (outer_ne_nil_of_rooted hroot) hfault with
      hraises | hshown | hruns
    · exact .inl hraises
    · exact absurd hkind (valueShown_not_writing hshown)
    · exact .inr (answers_of_valueRuns hruns hkind)
  | leave n =>
    cases hcall
    cases d with
    | zero => cases hdepth
    | succ depth =>
      rcases yields_nodeEnd s h with ⟨_, u, hu, -⟩ | ⟨_, _, _, hfalse⟩
      · cases hu.symm.trans hfault
      · exact hfalse.elim
  | note line => cases hcall
  | malformed fault list n => cases hcall
  | failed fault => cases hcall

end Report

/-! ## Answers of hives -/

namespace Image

theorem recordFault_not_writing (reason : RecordFault) : (Fault.record reason).kind ≠ .writing := by
  cases reason <;> exact FaultKind.noConfusion

/-- A question about a record is not answered with a fault of the writer. -/
theorem recordOfHandle_bind_not_writing {α : Type} {im : Image} {kind : RecordKind} {handle : Int}
    {next : Int → Except Fault α} {fault : Fault}
    (h : (do let record ← im.recordOfHandle kind handle; next record) = .error fault)
    (hnext : ∀ record, next record = .error fault → fault.kind ≠ .writing) :
    fault.kind ≠ .writing := by
  rcases Failing.bind_eq_error.mp h with h | ⟨record, -, h⟩
  · rcases recordOfHandle_cases im kind handle with hrecord | ⟨reason, hrecord⟩
    · rw [hrecord] at h
      cases h
    · rw [hrecord] at h
      cases h
      exact FaultKind.noConfusion
  · exact hnext record h

end Image

/-- **An image answers no question with a fault of the writer.** -/
theorem HiveFile.not_answers_writing (h : HiveFile) {fault : Fault} (ha : h.source.Answers fault) :
    fault.kind ≠ .writing := by
  have hfield {α β : Type} {x : Except RecordFault α} {f : α → β}
      (hx : (x.mapError Fault.record).map f = .error fault) : fault.kind ≠ .writing := by
    obtain ⟨reason, -, rfl⟩ := Failing.mapError_eq_error.mp (Failing.map_eq_error.mp hx)
    exact Image.recordFault_not_writing reason
  cases ha with
  | timestamp ht =>
    refine Image.recordOfHandle_bind_not_writing ht fun record hr => ?_
    obtain ⟨reason, -, rfl⟩ := Failing.mapError_eq_error.mp hr
    exact Image.recordFault_not_writing reason
  | nodeLength hl => exact Image.recordOfHandle_bind_not_writing hl fun _ => hfield
  | valueLength hl => exact Image.recordOfHandle_bind_not_writing hl fun _ => hfield
  | dataCell hc =>
    rcases Image.dataCell_eq_error hc with ⟨_, rfl⟩ | ⟨_, rfl⟩ <;> exact FaultKind.noConfusion

/-- A hive in memory answers with faults of two kinds: a handle or a data cell is not what it should
be, or its builder has put a fault in place of a data cell. -/
theorem MemoryHive.answers_cases (h : MemoryHive) {fault : Fault} (ha : h.source.Answers fault) :
    fault.isProvenance = true ∨ ∃ handle, h.dataCellFaults.get? handle = some fault := by
  have hkey {α : Type} {n : Node} {f : KeyRecord → α} (hk : (h.key n).map f = .error fault) :
      fault.isProvenance = true := by
    have hk := Failing.map_eq_error.mp hk
    unfold key at hk
    split at hk
    · cases hk
      rfl
    · split at hk
      · cases hk
      · cases hk
        rfl
  have hrecord {v : Value} (hv : h.valueRecord v = .error fault) : fault.isProvenance = true := by
    unfold valueRecord at hv
    split at hv
    · cases hv
      rfl
    · split at hv
      · cases hv
      · cases hv
        rfl
  cases ha with
  | timestamp ht => exact .inl (hkey ht)
  | nodeLength hl => exact .inl (hkey hl)
  | valueLength hl => exact .inl (hrecord (Failing.map_eq_error.mp hl))
  | @dataCell v hc =>
    change h.dataCell v = _ at hc
    unfold dataCell at hc
    split at hc
    next other hother =>
      cases hc
      exact .inr ⟨v.handle, hother⟩
    · rcases Failing.bind_eq_error.mp hc with hc | ⟨record, -, hc⟩
      · exact .inl (hrecord hc)
      · split at hc
        · cases hc
          exact .inl rfl
        · cases hc

/-- **A hive in memory answers with a fault of the writer** only where its builder has put it. -/
theorem MemoryHive.answers_writing (h : MemoryHive) {fault : Fault} (ha : h.source.Answers fault)
    (hkind : fault.kind = .writing) : ∃ handle, h.dataCellFaults.get? handle = some fault := by
  refine (h.answers_cases ha).resolve_left fun hprovenance => ?_
  rw [Fault.isProvenance, hkind] at hprovenance
  cases hprovenance

/-! ## Conversions -/

namespace Conversion

open Report Walk

/-- What is written up to some point of a walk. -/
def upTo (src : Source) (skipping : Bool) (done : List Event) : Action Writer Unit := do
  prologue src
  told src skipping done

/-- Whether a conversion on a device that takes everything comes behind these events of its walk,
in this session. -/
def ComesTo (config : Config) (policy : Policy) (trace : List LogLine) (src : Source)
    (done : List Event) (s : Session Writer) : Prop :=
  (upTo src config.skipBad done).perform (opening config .working policy trace) = (.ok (), s)

/-- A document in UTF-8 is in order behind any stretch of a walk, and the policy has kept its
judge. -/
theorem ComesTo.deep {config : Config} {policy : Policy} {trace : List LogLine} {src : Source}
    {done rest : List Event} {s : Session Writer} (h : ComesTo config policy trace src done s)
    (hencoding : config.encoding = "utf-8") (hevents : events src = done ++ rest) :
    ∃ depth, depthBehind? done 0 = some depth ∧ depthBehind? rest depth = some 0 ∧
      Deep depth s.output ∧ s.policy.judge = policy.judge := by
  have hlevel := level_events src 0
  rw [hevents, depthBehind?_append] at hlevel
  obtain ⟨depth, hdone, hrest⟩ := Option.bind_eq_some_iff.mp hlevel
  have hblank : (opening config .working policy trace).output = blank := by
    rw [opening, hencoding]
    rfl
  have hprologue : Yields (· = blank) (prologue src) (fun _ => Deep 0) Cut := by
    refine (yields_prologue src).imp_post ?_
    rintro _ w ⟨ts, -, hpage⟩
    exact ⟨_, rooted_opened.add ts, rfl, hpage⟩
  have htold := hprologue.bind fun _ => yields_told src config.skipBad hdone
  have hcharts := (charts_prologue src).bind fun _ => charts_told src config.skipBad hdone
  have hjudge : ((upTo src config.skipBad done).perform
      (opening config .working policy trace)).2.policy.judge = policy.judge :=
    hcharts.judge _ rfl
  refine ⟨depth, hdone, hrest, ?_, ?_⟩
  · rcases htold _ hblank with ⟨_, t, ht, hdeep⟩ | ⟨fault, t, ht, -⟩
    · obtain ⟨-, rfl⟩ := Prod.mk.inj (ht.symm.trans h)
      exact hdeep
    · cases ht.symm.trans h
  · rwa [h] at hjudge

/-- **The callbacks of a conversion keep to the writer's rules.** Where a walk makes a call, the
document so far ends inside its root, below as many nodes as the walk is deep: its tokens are well
formed, and those of trees that are open. So it does behind the call, whether the call succeeds or
fails. The call does not fail with a fault of the writer, unless the policy has a judge and, given a
fault during the call that could be survived, has raised this one, or the builder of a hive in
memory has put it in the place of a data cell. -/
theorem callbacks_write {config : Config} (hencoding : config.encoding = "utf-8") (policy : Policy)
    (trace : List LogLine) (src : Source) {done rest : List Event} {ev : Event} {call : Callback}
    {s : Session Writer} (hevents : events src = done ++ ev :: rest)
    (hcall : ev.callback? = some call) (hs : ComesTo config policy trace src done s) :
    ∃ depth depth', depthBehind? done 0 = some depth ∧ ev.depth? depth = some depth' ∧
      Deep depth s.output ∧
      (∀ t, ((visitor src).on call).perform s = (.ok (), t) → Deep depth' t.output) ∧
      ∀ fault t, ((visitor src).on call).perform s = (.error fault, t) →
        Cut t.output ∧
          (fault.kind = .writing →
            (∃ judge, policy.judge = some judge) ∧ s.policy.Raises fault t.policy ∨
            src.Answers fault ∧ (∀ h : HiveFile, src ≠ h.source) ∧
              ∀ h : MemoryHive, src = h.source →
                ∃ handle, h.dataCellFaults.get? handle = some fault) := by
  obtain ⟨depth, hdone, hrest, hdeep, hjudge⟩ := hs.deep hencoding hevents
  rw [depthBehind?_cons] at hrest
  obtain ⟨depth', hdepth, -⟩ := Option.bind_eq_some_iff.mp hrest
  have hon : Yields (Deep depth) ((visitor src).on call) (fun _ => Deep depth') Cut :=
    yields_on hdepth hcall
  have hcalled := hon s hdeep
  refine ⟨depth, depth', hdone, hdepth, hdeep, fun t ht => ?_,
    fun fault t ht => ⟨?_, fun hkind => ?_⟩⟩
  · rcases hcalled with ⟨_, t', ht', hdeep'⟩ | ⟨fault, t', ht', -⟩
    · obtain ⟨-, rfl⟩ := Prod.mk.inj (ht.symm.trans ht')
      exact hdeep'
    · cases ht.symm.trans ht'
  · rcases hcalled with ⟨_, t', ht', -⟩ | ⟨fault', t', ht', hcut⟩
    · cases ht.symm.trans ht'
    · obtain ⟨-, rfl⟩ := Prod.mk.inj (ht.symm.trans ht')
      exact hcut
  · rcases raises_or_answers hdepth hcall hdeep ht hkind with hraises | hanswers
    · obtain ⟨judge, hj⟩ := hraises.judge hkind
      exact .inl ⟨⟨judge, hjudge ▸ hj⟩, hraises⟩
    · refine .inr ⟨hanswers, ?_, ?_⟩
      · rintro h rfl
        exact h.not_answers_writing hanswers hkind
      · rintro h rfl
        exact h.answers_writing hanswers hkind

/-- The conversion of the damaged hive in front of its list of texts. -/
def atTexts : Except Fault Unit × Session Writer :=
  (upTo (damaged false).source false [.enter (damaged false).root]).perform
    (opening {} .working .standard [])

theorem comesTo_damaged :
    ComesTo {} .standard [] (damaged false).source [.enter (damaged false).root] atTexts.2 := by
  have hok : atTexts.1.toBool = true := by decide +kernel
  change atTexts = (.ok (), atTexts.2)
  rcases hat : atTexts with ⟨fault | _, s⟩
  · rw [hat] at hok
    cases hok
  · rfl

theorem callbacks_write_damaged :
    ({} : Config).encoding = "utf-8" ∧
      ∃ v rest, events (damaged false).source =
          [.enter (damaged false).root] ++ .value (damaged false).root v :: rest ∧
        ComesTo {} .standard [] (damaged false).source [.enter (damaged false).root] atTexts.2 ∧
        Deep 1 atTexts.2.output ∧
        ∀ t, (value (damaged false).source v).perform atTexts.2 = (.ok (), t) →
          Deep 1 t.output := by
  refine ⟨rfl, ?_⟩
  obtain ⟨v, rest, hevents⟩ : ∃ v rest, events (damaged false).source =
      [.enter (damaged false).root] ++ .value (damaged false).root v :: rest := by
    rw [events_damaged]
    exact ⟨_, _, rfl⟩
  obtain ⟨depth, depth', hdone, hdepth, hdeep, hok, -⟩ :=
    callbacks_write rfl .standard [] (damaged false).source hevents rfl comesTo_damaged
  cases hdone
  cases hdepth
  exact ⟨v, rest, hevents, comesTo_damaged, hdeep, hok⟩

end Conversion

end HiveDump
