import HiveDump.Proofs.Markup.LaidDown
import HiveDump.Proofs.Markup.Stages
import HiveDump.Proofs.Report.Outcome
import HiveDump.Proofs.Report.Shown

/-!
# Byte runs are written as a whole or not at all

All questions about byte runs are asked before anything is written. So a question that fails leaves
the writer exactly as it is, whatever it is; and once all are answered, what remains is a fixed
sequence of calls (`runsCalls`), which only the writer can fail.

Results:
* `nodeByteRuns_of_ok`, `valueByteRuns_of_ok`: byte runs as calls;
* **`byteRuns_spec`**: what byte runs do to a session, for all answers and all writers.
-/

namespace HiveDump.Report

open HiveDump.Action Markup Markup.Tree

variable {α β : Type} {name : String} {w w' : Writer}

/-! ## Byte runs as calls -/

/-- The calls that write an element with some content. -/
def elementCalls (name : String) (content : Writing α) : Writing α := do
  Writer.startElement name
  let a ← content
  Writer.endElement
  return a

/-- The calls that write one byte run. -/
def runCalls (run : Int × Int) : Writing Unit :=
  elementCalls "byte_run" do
    Writer.writeAttribute "file_offset" (toString run.1)
    Writer.writeAttribute "len" (toString run.2)

/-- The calls that write byte runs. -/
def runsCalls (runs : List (Int × Int)) : Writing Unit :=
  elementCalls "byte_runs" (runs.forM runCalls)

/-- One call behind another, through a session. -/
theorem write_bind (x : Writing α) (f : α → Writing β) :
    (Action.write x >>= fun a => Action.write (f a)) = Action.write (x >>= f) := by
  funext s
  change perform (Action.write x >>= fun a => Action.write (f a)) s =
    perform (Action.write (x >>= f)) s
  rw [perform_bind, perform_write, perform_write (x >>= f), Writer.call_bind]
  rcases s.output.call x with ⟨fault | a, w⟩
  · rfl
  · exact perform_write (f a) _

theorem write_pure (a : α) : Action.write (pure a) = pure a :=
  rfl

theorem element_write (name : String) (content : Writing α) :
    element name (Action.write content) = Action.write (elementCalls name content) := by
  simp only [element, elementCalls, ← write_bind, write_pure]

theorem byteRun_eq (offset length : Int) :
    byteRun offset length = Action.write (runCalls (offset, length)) := by
  simp only [byteRun, writeAttribute, write_bind, element_write, runCalls]

theorem nodeByteRuns_of_ok {src : Source} {n : Node} {length : Int}
    (h : src.nodeLength n = .ok length) :
    nodeByteRuns src n =
      Action.write (runsCalls [(n.handle, length)]) >>= fun _ => pure () := by
  simp [nodeByteRuns, h, ask, byteRun_eq, element_write, runsCalls]

/-- The runs of a value whose questions are answered: the second one is that of its payload. -/
def cellRuns (handle length : Int) (cell : Int × Int) : List (Int × Int) :=
  (handle, length) :: if inlineLimit < cell.2 then [cell] else []

theorem valueByteRuns_of_ok {src : Source} {v : Value} {length : Int} {cell : Int × Int}
    (h : src.valueLength v = .ok length) (hcell : src.dataCell v = .ok cell) :
    valueByteRuns src v = Action.write (runsCalls (cellRuns v.handle length cell)) >>=
      fun _ => pure (cellRuns v.handle length cell).length := by
  have hcontent (k : Nat) : (pure k : Action Writer Nat) = Action.write (pure k) := rfl
  unfold valueByteRuns cellRuns
  rw [h, hcell]
  by_cases hlong : inlineLimit < cell.2 <;>
    simp [ask, byteRun_eq, runsCalls, hlong, hcontent, write_bind, element_write, elementCalls]

/-! ## What they lay down -/

/-- Whether a writer has written a child of its innermost element. -/
structure GainsChild (child : Tree) (w w' : Writer) : Prop where
  markup : w'.markup = w.laid ++ child.tokens
  openElements : w'.openElements = w.openNames
  pending : w'.pending = none
  device : ∀ reason, w'.device ≠ .failed reason

/-- Whether a writer has opened an element, and filled it with attributes and trees. -/
structure Fills (name : String) (attributes : List Attribute) (ts : List Tree) (w w' : Writer) :
    Prop where
  laid : w'.laid = w.laid ++ .startTag name attributes :: forestTokens ts
  names : w'.openNames = name :: w.openNames
  listens : w'.Listens

variable {attributes : List Attribute} {ts : List Tree} {run : Int × Int} {runs : List (Int × Int)}

theorem fills_of_pending (hmarkup : w'.markup = w.laid) (hopen : w'.openElements = w.openNames)
    (hpending : w'.pending = some ⟨name, attributes⟩) : Fills name attributes [] w w' := by
  refine ⟨?_, ?_, ?_⟩
  · rw [Writer.laid_of_some hpending, hmarkup]
    rfl
  · rw [Writer.openNames_of_some hpending, hopen]
  · intro hnone
    rw [hnone] at hpending
    cases hpending

theorem Fills.gainsChild {v : Writer} {t : Tree} (h : Fills name attributes ts w v)
    (hgains : GainsChild t v w') : Fills name attributes (ts ++ [t]) w w' := by
  refine ⟨?_, ?_, fun _ => hgains.device⟩
  · rw [Writer.laid_of_none hgains.pending, hgains.markup, h.laid, List.append_assoc,
      forestTokens_append, forestTokens_singleton]
    rfl
  · rw [Writer.openNames_of_none hgains.pending, hgains.openElements, h.names]

/-- An element lays down its tags around its content. -/
theorem gainsChild_element {content : Writing α} {a : α}
    (hcontent : ∀ v v', w.Begins name v → v.call content = (.ok a, v') →
      Fills name attributes ts w v')
    (h : w.call (elementCalls name content) = (.ok a, w')) :
    GainsChild (.element name attributes ts) w w' := by
  obtain ⟨_, v, hstart, hbehind⟩ := Writer.of_call_bind h
  obtain ⟨b, u, hinside, hlast⟩ := Writer.of_call_bind hbehind
  obtain ⟨_, x, hend, hresult⟩ := Writer.of_call_bind hlast
  rw [Writer.call_pure, Prod.mk.injEq, Except.ok.injEq] at hresult
  obtain ⟨rfl, rfl⟩ := hresult
  have hfills := hcontent v u (Writer.begins_startElement hstart) hinside
  obtain ⟨element, hcloses⟩ := Writer.closes_endElement hfills.listens hend
  obtain ⟨hname, hopen⟩ := List.cons.inj (hfills.names.symm.trans hcloses.names)
  refine ⟨?_, hopen.symm, hcloses.pending, hcloses.device⟩
  rw [hcloses.markup, hfills.laid, ← hname]
  simp [Tree.tokens]

theorem gainsChild_runCalls (h : w.call (runCalls run) = (.ok (), w')) :
    GainsChild (byteRunTree run.1 run.2) w w' := by
  refine gainsChild_element (fun v v' hbegins hcontent => ?_) h
  obtain ⟨_, u, hfirst, hsecond⟩ := Writer.of_call_bind hcontent
  obtain rfl := Writer.of_writeAttribute hbegins.pending hfirst
  obtain rfl := Writer.of_writeAttribute rfl hsecond
  exact fills_of_pending hbegins.markup hbegins.openElements rfl

theorem fills_forM {v : Writer} (hfills : Fills name attributes ts w v)
    (h : v.call (runs.forM runCalls) = (.ok (), w')) :
    Fills name attributes (ts ++ runs.map fun run => byteRunTree run.1 run.2) w w' := by
  induction runs generalizing v ts with
  | nil =>
    obtain rfl : v = w' := congrArg Prod.snd h
    rwa [List.map_nil, List.append_nil]
  | cons run runs ih =>
    obtain ⟨_, u, hrun, hrest⟩ := Writer.of_call_bind h
    have hmore := ih (hfills.gainsChild (gainsChild_runCalls hrun)) hrest
    rwa [List.append_assoc] at hmore

/-- Byte runs that are written are one child, of exactly these runs. -/
theorem gainsChild_runsCalls (h : w.call (runsCalls runs) = (.ok (), w')) :
    GainsChild (runsTree runs) w w' :=
  gainsChild_element (fun _ _ hbegins hcontent =>
    fills_forM (fills_of_pending hbegins.markup hbegins.openElements hbegins.pending) hcontent) h

/-! ## Where they can be written -/

/-- What a call does where a child can be started and the device works: it succeeds, and another
child can be started. -/
def Goes (call : Writing α) (w : Writer) (names : List String) : Prop :=
  w.TakesChild → w.device = .working → ∃ a w', w.call call = (.ok a, w') ∧ w'.openNames = names ∧
    w'.device = .working ∧ (names ≠ [] → w'.TakesChild)

theorem goes_element {content : Writing α} (hname : Writer.nameFault? name = none)
    (hcontent : ∀ v, w.Begins name v → Goes content v (name :: w.openNames)) :
    Goes (elementCalls name content) w w.openNames := by
  intro htakes hdevice
  obtain ⟨v, hstart, htakes', hdevice'⟩ := htakes.startElement hdevice hname
  obtain ⟨a, u, hinside, hnames, hdevice'', htakes''⟩ :=
    hcontent v (Writer.begins_startElement hstart) htakes' hdevice'
  have hopen := htakes'' (List.cons_ne_nil _ _)
  obtain ⟨x, hend, htakesx, hdevicex⟩ := hopen.endElement hdevice'' hnames
  have hlistens : u.Listens := by
    intro _ reason
    rw [hdevice'']
    exact Device.noConfusion
  obtain ⟨element, hcloses⟩ := Writer.closes_endElement hlistens hend
  obtain ⟨-, hbehind⟩ := List.cons.inj (hnames.symm.trans hcloses.names)
  refine ⟨a, x, ?_, ?_, hdevicex, htakesx⟩
  · rw [elementCalls, Writer.call_bind, hstart]
    dsimp only
    rw [Writer.call_bind, hinside]
    dsimp only
    rw [Writer.call_bind, hend]
    rfl
  · rw [Writer.openNames_of_none hcloses.pending, hbehind]

theorem goes_runCalls : Goes (runCalls run) w w.openNames := by
  refine goes_element (by decide) fun v hbegins htakes hdevice => ?_
  have hvalue (n : Int) : Writer.textFault? (toString n) = none := by
    rw [Writer.textFault?, legal_of_printable (printable_decimal n)]
    rfl
  obtain ⟨u, hfirst, htakesu, hdeviceu⟩ := htakes.writeAttribute hdevice hbegins.pending
    (n := "file_offset") (by simp) (by decide) (hvalue run.1)
  obtain rfl := Writer.of_writeAttribute hbegins.pending hfirst
  obtain ⟨x, hsecond, htakesx, hdevicex⟩ := htakesu.writeAttribute hdeviceu rfl
    (n := "len") (by simp) (by decide) (hvalue run.2)
  obtain rfl := Writer.of_writeAttribute rfl hsecond
  refine ⟨(), _, ?_, ?_, hdevicex, fun _ => htakesx⟩
  · rw [Writer.call_bind, hfirst]
    exact hsecond
  · rw [Writer.openNames_of_some rfl, ← hbegins.openElements]
    rfl

theorem goes_forM (h : w.openNames ≠ []) : Goes (runs.forM runCalls) w w.openNames := by
  intro htakes hdevice
  induction runs generalizing w with
  | nil => exact ⟨(), w, rfl, rfl, hdevice, fun _ => htakes⟩
  | cons run runs ih =>
    obtain ⟨_, v, hrun, hnames, hdevice', htakes'⟩ := goes_runCalls htakes hdevice
    obtain ⟨_, u, hrest, hnames', hdevice'', htakes''⟩ :=
      ih (hnames ▸ h) (htakes' h) hdevice'
    refine ⟨(), u, ?_, hnames'.trans hnames, hdevice'', hnames ▸ htakes''⟩
    change w.call (runCalls run >>= fun _ => runs.forM runCalls) = _
    rw [Writer.call_bind, hrun]
    exact hrest

theorem goes_runsCalls : Goes (runsCalls runs) w w.openNames := by
  refine goes_element (by decide) fun v hbegins => ?_
  have hnames : v.openNames = "byte_runs" :: w.openNames := by
    rw [Writer.openNames_of_some hbegins.pending, hbegins.openElements]
  rw [← hnames]
  exact goes_forM (hnames ▸ List.cons_ne_nil _ _)

/-- Byte runs with at least one run can be written only where a child can be started. -/
theorem takesChild_of_runsCalls (hruns : runs ≠ []) (h : w.call (runsCalls runs) = (.ok (), w')) :
    w.TakesChild := by
  cases runs with
  | nil => exact absurd rfl hruns
  | cons run runs =>
    obtain ⟨_, v, hstart, hbehind⟩ := Writer.of_call_bind h
    obtain ⟨_, u, hinside, -⟩ := Writer.of_call_bind hbehind
    obtain ⟨_, x, hrun, -⟩ := Writer.of_call_bind hinside
    obtain ⟨_, y, hinner, -⟩ := Writer.of_call_bind hrun
    -- the start of an element writes only the start tag in front of it; its own is looked at when
    -- the run inside it starts
    exact Writer.takesChild_of_startElement hstart hinner

/-! ## How they fail -/

theorem quiet_element {content : Writing α} (hcontent : ∀ v, Writer.Quiet v content) :
    Writer.Quiet w (elementCalls name content) :=
  (Writer.quiet_startElement name).bind fun _ v _ => (hcontent v).bind fun _ _ _ =>
    Writer.quiet_endElement.bind fun _ _ _ => Writer.quiet_pure _

theorem quiet_runsCalls : Writer.Quiet w (runsCalls runs) := by
  refine quiet_element fun v => ?_
  induction runs generalizing v with
  | nil => exact Writer.quiet_pure ()
  | cons run runs ih =>
    refine Writer.Quiet.bind ?_ fun _ _ _ => ih _
    exact quiet_element fun u => (Writer.quiet_writeAttribute _ _).bind fun _ _ _ =>
      Writer.quiet_writeAttribute _ _

/-! ## Byte runs of nodes and values -/

/-- How a part of a report writes these byte runs and gives this result: if it succeeds, they are
one child more and nothing else has changed; if it fails, the writer has failed; and on a device
that works it succeeds exactly where the writer can take a child. -/
structure WritesRuns (act : Action Writer α) (runs : List (Int × Int)) (a : α)
    (s : Session Writer) : Prop where
  ok : ∀ b t, act.perform s = (.ok b, t) → b = a ∧ GainsChild (runsTree runs) s.output t.output ∧
    t.output.depth = s.output.depth ∧ t = { s with output := t.output }
  error : ∀ fault t, act.perform s = (.error fault, t) → fault.kind = .writing
  succeeds : s.output.device = .working →
    ((∃ t, act.perform s = (.ok a, t)) ↔ s.output.TakesChild)

theorem GainsChild.depth {child : Tree} (h : GainsChild child w w') : w'.depth = w.depth := by
  rw [Writer.depth_eq_length, Writer.depth_eq_length, Writer.openNames_of_none h.pending,
    h.openElements]

theorem writesRuns (hruns : runs ≠ []) (a : α) (s : Session Writer) :
    WritesRuns (Action.write (runsCalls runs) >>= fun _ => pure a) runs a s := by
  have hperform : (Action.write (runsCalls runs) >>= fun _ => pure a : Action Writer α).perform s =
      ((s.output.call (runsCalls runs)).1.map (fun _ => a) |>.mapError Fault.write,
        { s with output := (s.output.call (runsCalls runs)).2 }) := by
    rw [perform_bind, perform_write]
    cases (s.output.call (runsCalls runs)).1 <;> rfl
  rcases hcall : s.output.call (runsCalls runs) with ⟨fault | _, w⟩
  case error =>
    rw [hcall] at hperform
    refine ⟨fun b t h => ?_, fun other t h => ?_,
      fun hdevice => ⟨fun ⟨t, h⟩ => ?_, fun htakes => ?_⟩⟩
    · cases hperform.symm.trans h
    · cases hperform.symm.trans h
      exact quiet_runsCalls.ofWriting fault (congrArg Prod.fst hcall)
    · cases hperform.symm.trans h
    · obtain ⟨_, w', hok, -⟩ := goes_runsCalls htakes hdevice
      cases hcall.symm.trans hok
  case ok =>
    rw [hcall] at hperform
    have hgains := gainsChild_runsCalls hcall
    refine ⟨fun b t h => ?_, fun other t h => ?_, fun _ => ⟨fun _ => ?_, fun _ => ⟨_, hperform⟩⟩⟩
    · cases hperform.symm.trans h
      exact ⟨rfl, hgains, hgains.depth, rfl⟩
    · cases hperform.symm.trans h
    · exact takesChild_of_runsCalls hruns hcall

/-- How the fault of a question is reported: as one of this kind about a handle if it has to be
wrapped, and else as it is. -/
structure Reports (wrapped : Prop) (kind : FaultKind) (handle : Int) (fault reported : Fault) :
    Prop where
  wraps : wrapped → reported.kind = kind ∧ reported.origin? = some fault ∧
    reported.handle? = some handle
  passes : ¬wrapped → reported = fault

/-- Kinds of faults about bad values and failed lookups. -/
def unusableAnswers : List FaultKind :=
  [.badValue, .undecodable, .unencodable, .badName, .badKey, .badIndex]

theorem reports_wrapped {wrapped : Prop} [Decidable wrapped] {kind : FaultKind} {handle : Int}
    {fault wrapper : Fault} (hkind : wrapper.kind = kind) (horigin : wrapper.origin? = some fault)
    (hhandle : wrapper.handle? = some handle) :
    Reports wrapped kind handle fault (if wrapped then wrapper else fault) :=
  ⟨fun h => by rw [if_pos h]; exact ⟨hkind, horigin, hhandle⟩, fun h => if_neg h⟩

theorem nodeFault_eq (handle : Int) (fault : Fault) :
    nodeFault handle fault =
      if fault.kind = .invalidHandle then .notANode handle fault else fault := by
  simp only [nodeFault, beq_iff_eq]

theorem valueFault_eq (handle : Int) (fault : Fault) :
    valueFault handle fault =
      if fault.kind = .invalidHandle then .notAValue handle fault else fault := by
  simp only [valueFault, beq_iff_eq]

theorem cellFault_eq (handle : Int) (fault : Fault) :
    cellFault handle fault =
      if fault.kind ∈ unusableAnswers then .unlocatedDataCell handle fault else fault := by
  unfold cellFault unusableAnswers
  generalize fault.kind = kind
  cases kind <;> rfl

/-- **Byte runs are written as a whole or not at all.** A question that fails leaves the session
exactly as it is; the fault is reported as one about the handle if it says that the handle is none,
or that a data cell cannot be told, and else as it is. Once all questions are answered, the byte
runs are written: that of the record, and that of the payload if it takes more than four bytes. -/
theorem byteRuns_spec (src : Source) (s : Session Writer) :
    (∀ n : Node,
      (∀ fault, src.nodeLength n = .error fault →
        ∃ reported, (nodeByteRuns src n).perform s = (.error reported, s) ∧
          Reports (fault.kind = .invalidHandle) .invalidHandle n.handle fault reported) ∧
      ∀ length, src.nodeLength n = .ok length →
        WritesRuns (nodeByteRuns src n) [(n.handle, length)] () s) ∧
    ∀ v : Value,
      (∀ fault, src.valueLength v = .error fault →
        ∃ reported, (valueByteRuns src v).perform s = (.error reported, s) ∧
          Reports (fault.kind = .invalidHandle) .invalidHandle v.handle fault reported) ∧
      ∀ length, src.valueLength v = .ok length →
        (∀ fault, src.dataCell v = .error fault →
          ∃ reported, (valueByteRuns src v).perform s = (.error reported, s) ∧
            Reports (fault.kind ∈ unusableAnswers) .provenance v.handle fault reported) ∧
        ∀ cell, src.dataCell v = .ok cell →
          ∃ runs, runs = (v.handle, length) :: (if 4 < cell.2 then [cell] else []) ∧
            WritesRuns (valueByteRuns src v) runs runs.length s := by
  refine ⟨fun n => ⟨fun fault h => ?_, fun length h => ?_⟩, fun v => ⟨fun fault h => ?_,
    fun length h => ⟨fun fault hcell => ?_, fun cell hcell => ?_⟩⟩⟩
  · exact ⟨_, by rw [nodeByteRuns, h]; rfl,
      nodeFault_eq n.handle fault ▸ reports_wrapped rfl rfl rfl⟩
  · rw [nodeByteRuns_of_ok h]
    exact writesRuns (List.cons_ne_nil _ _) () s
  · exact ⟨_, by rw [valueByteRuns, h]; rfl,
      valueFault_eq v.handle fault ▸ reports_wrapped rfl rfl rfl⟩
  · exact ⟨_, by rw [valueByteRuns, h, hcell]; rfl,
      cellFault_eq v.handle fault ▸ reports_wrapped rfl rfl rfl⟩
  · refine ⟨_, rfl, ?_⟩
    rw [valueByteRuns_of_ok h hcell]
    exact writesRuns (List.cons_ne_nil _ _) _ s

/-- A session inside the root element, where an attribute may have been begun. -/
def insideHive (begun : Option PendingAttribute) : Session Writer where
  output :=
    { label := "utf-8", stage := .writing, tokens := #[.declaration "utf-8"],
      pending := some { name := rootName }, openAttribute := begun }
  policy := .standard

theorem byteRuns_spec_insideHive :
    (∃ reported, (valueByteRuns (Conversion.damaged false).source
        { handle := 0, key := none, kind := .dword, length := 4 }).perform (insideHive none) =
          (.error reported, insideHive none) ∧ reported.kind = .invalidHandle) ∧
      ∃ t, (nodeByteRuns (Conversion.damaged false).source (Conversion.damaged false).root).perform
        (insideHive none) = (.ok (), t) ∧ t.output.depth = 1 := by
  obtain ⟨hnodes, hvalues⟩ := byteRuns_spec (Conversion.damaged false).source (insideHive none)
  constructor
  · obtain ⟨reported, hperform, hreports⟩ :=
      (hvalues { handle := 0, key := none, kind := .dword, length := 4 }).1 (.unknownValue 0) rfl
    exact ⟨reported, hperform, (hreports.wraps rfl).1⟩
  · have hwrites := (hnodes (Conversion.damaged false).root).2 84 rfl
    have htakes : (insideHive none).output.TakesChild := by
      refine ⟨rfl, rfl, rfl, ?_⟩
      rintro tag ⟨⟩
      decide
    obtain ⟨t, ht⟩ := (hwrites.succeeds rfl).mpr htakes
    obtain ⟨-, -, hdepth, -⟩ := hwrites.ok () t ht
    exact ⟨t, ht, hdepth⟩

/-- While an attribute of the start tag is begun, all questions may be answered and still nothing is
written. -/
theorem nodeByteRuns_begunAttribute :
    ({ label := "utf-8" } : Writer).afterAll?
        [.startDocument, .startElement rootName, .startAttribute "a"] =
          some (insideHive (some { name := "a" })).output ∧
      (insideHive (some { name := "a" })).output.depth = 1 ∧
      (Conversion.damaged false).source.nodeLength (Conversion.damaged false).root = .ok 84 ∧
      (nodeByteRuns (Conversion.damaged false).source (Conversion.damaged false).root).perform
        (insideHive (some { name := "a" })) =
          (.error (.write (.misuse (.attributeOpen "flush"))),
            insideHive (some { name := "a" })) := by
  have hstart : ({ label := "utf-8" } : Writer).call Writer.startDocument =
      (.ok (), { label := "utf-8", stage := .writing, tokens := #[.declaration "utf-8"] }) := by
    simp [Writer.startDocument, Writer.call_bind, Writer.usable_utf8.legal,
      Writer.usable_utf8.charset, Writer.usable_utf8.markup, Writer.emit]
  refine ⟨?_, rfl, rfl, rfl⟩
  simp only [Writer.afterAll?, Call.act, hstart]
  rfl

end HiveDump.Report
