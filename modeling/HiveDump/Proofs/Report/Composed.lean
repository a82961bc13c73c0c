import HiveDump.Markup.Call
import HiveDump.Proofs.Report.Depth

/-!
# What the parts of a report do

A part of a report is given a writer and submits faults to its policy. `DoesUnder` says all that
becomes of it under a policy: it submits these faults, ends like this and leaves that writer,
whatever the tally counts and the log says, unless the policy raises something on the way
(`Policy.Raises`). Most parts do the same under all policies (`Does`), since what a policy answers
only counts where a node has no time stamp.

All parts of a report are put together in a few ways (`Composed`): parts that ask no policy
(`Bare`), one part behind another, and bare parts whose failure may be survived. Both are indexed
by the names of the elements that a part may open.

Results:
* **`DoesUnder.bind`**, `DoesUnder.stop`: one part behind another;
* `DoesUnder.perform`, `DoesUnder.raises_or`: what comes of a part where no policy raises, and where
  it fails;
* `Does.tried`, **`Does.survived`**, `Does.failed`: parts that may be given up;
* `composed_nodeStart`, `composed_value`, `composed_prologue`, `composed_finish`: the parts of a
  report are composed.
-/

namespace HiveDump

namespace Report

open HiveDump.Action

variable {α β : Type}

/-! ## What a part does -/

/-- Whether a part, from a writer and under a policy, submits these faults, ends like this and leaves
that writer, unless the policy raises something. The tally stays as it is. -/
def DoesUnder (p : Policy) (act : Action Writer α) (w : Writer) (given : List Policy.Submission)
    (result : Except Fault α) (w' : Writer) : Prop :=
  ∀ s : Session Writer, s.output = w → s.policy = p →
    (∃ ds, act.perform s = (result, ⟨w', p.after given, s.tally, ds⟩)) ∨
      ∃ raised t, act.perform s = (.error raised, t) ∧ p.Raises raised t.policy

/-- Whether a part does so under every policy. -/
def Does (act : Action Writer α) (w : Writer) (given : List Policy.Submission)
    (result : Except Fault α) (w' : Writer) : Prop :=
  ∀ p, DoesUnder p act w given result w'

variable {act : Action Writer α} {next : α → Action Writer β} {w w' w'' : Writer}
  {given more : List Policy.Submission} {last : Except Fault β} {result : Except Fault α}
  {fault : Fault} {p : Policy} {s t : Session Writer}

/-- Where no policy raises. -/
theorem DoesUnder.perform (h : DoesUnder s.policy act s.output given result w')
    (hp : s.policy.NeverRaises) :
    ∃ ds, act.perform s = (result, ⟨w', s.policy.after given, s.tally, ds⟩) :=
  (h s rfl rfl).resolve_right fun ⟨_, _, _, hraises⟩ => hp.not_raises hraises

/-- Where a part fails, its policy has raised the fault, or it ends like that in any case. -/
theorem DoesUnder.raises_or (h : DoesUnder s.policy act s.output given result w')
    (hfault : act.perform s = (.error fault, t)) :
    s.policy.Raises fault t.policy ∨ result = .error fault := by
  rcases h s rfl rfl with ⟨ds, hact⟩ | ⟨raised, u, hact, hraises⟩
  · exact .inr (congrArg Prod.fst (hact.symm.trans hfault))
  · obtain ⟨hsame, rfl⟩ := Prod.mk.inj (hact.symm.trans hfault)
    obtain rfl := Except.error.inj hsame
    exact .inl hraises

/-- **One part behind another** submits its faults behind the other one's. -/
theorem DoesUnder.bind {a : α} (h : DoesUnder p act w given (.ok a) w')
    (hnext : DoesUnder (p.after given) (next a) w' more last w'') :
    DoesUnder p (act >>= next) w (given ++ more) last w'' := by
  intro s hw hs
  rw [perform_bind]
  rcases h s hw hs with ⟨ds, hact⟩ | ⟨raised, t, hact, hraises⟩
  · rw [hact]
    rcases hnext ⟨w', p.after given, s.tally, ds⟩ rfl rfl with
      ⟨ds', hbehind⟩ | ⟨raised, t, hbehind, hraises⟩
    · refine .inl ⟨ds', ?_⟩
      rw [Policy.after_append]
      exact hbehind
    · exact .inr ⟨raised, t, hbehind, hraises.of_after⟩
  · rw [hact]
    exact .inr ⟨raised, t, rfl, hraises⟩

/-- Nothing follows a part that fails. -/
theorem DoesUnder.stop (h : DoesUnder p act w given (.error fault) w') :
    DoesUnder p (act >>= next) w given (.error fault) w' := by
  intro s hw hs
  rw [perform_bind]
  rcases h s hw hs with ⟨ds, hact⟩ | ⟨raised, t, hact, hraises⟩
  · exact .inl ⟨ds, by rw [hact]⟩
  · exact .inr ⟨raised, t, by rw [hact], hraises⟩

theorem Does.perform (h : Does act s.output given result w') (hp : s.policy.NeverRaises) :
    ∃ ds, act.perform s = (result, ⟨w', s.policy.after given, s.tally, ds⟩) :=
  (h s.policy).perform hp

theorem Does.bind {a : α} (h : Does act w given (.ok a) w')
    (hnext : Does (next a) w' more last w'') : Does (act >>= next) w (given ++ more) last w'' :=
  fun p => (h p).bind (hnext _)

theorem Does.stop (h : Does act w given (.error fault) w') :
    Does (act >>= next) w given (.error fault) w' :=
  fun p => (h p).stop

/-- A part that asks no policy. -/
theorem does_of_perform (h : ∀ s : Session Writer, s.output = w →
    ∃ ds, act.perform s = (result, ⟨w', s.policy, s.tally, ds⟩)) : Does act w [] result w' := by
  rintro p s hw rfl
  exact .inl (h s hw)

theorem does_pure (a : α) : Does (pure a) w [] (.ok a) w := by
  refine does_of_perform ?_
  rintro s rfl
  exact ⟨s.diagnostics, rfl⟩

theorem does_throw (fault : Fault) :
    Does (throw fault : Action Writer α) w [] (.error fault) w := by
  refine does_of_perform ?_
  rintro s rfl
  exact ⟨s.diagnostics, rfl⟩

theorem does_log (line : LogLine) : Does (log line) w [] (.ok ()) w := by
  refine does_of_perform ?_
  rintro s rfl
  exact ⟨_, perform_log line s⟩

theorem does_write (call : Writing α) :
    Does (Action.write call) w [] ((w.call call).1.mapError .write) (w.call call).2 := by
  refine does_of_perform ?_
  rintro s rfl
  exact ⟨s.diagnostics, perform_write call s⟩

/-! ## Bare parts -/

/-- The parts that give nothing up: they are put together from calls to the writer, log lines and
faults, and ask no policy. They open elements of certain names only, and none lets the writer go. -/
inductive Bare (opens : String → Prop) : {α : Type} → Action Writer α → Prop
  | pure {α : Type} (a : α) : Bare opens (pure a)
  | throw {α : Type} (fault : Fault) : Bare opens (throw fault : Action Writer α)
  | log (line : LogLine) : Bare opens (log line)
  | call (c : Call) (hc : c ≠ .release) (hopens : ∀ name, c.opens? = some name → opens name) :
    Bare opens (Action.write c.act)
  | bind {α β : Type} {act : Action Writer α} {next : α → Action Writer β} (hact : Bare opens act)
    (hnext : ∀ a, Bare opens (next a)) : Bare opens (act >>= next)

variable {opens : String → Prop}

/-- What a bare part does depends on the writer only. -/
theorem Bare.acts (h : Bare opens act) (w : Writer) : ∃ result w', ∀ s : Session Writer, s.output = w →
    ∃ ds, act.perform s = (result, ⟨w', s.policy, s.tally, ds⟩) := by
  induction h generalizing w with
  | pure a =>
    refine ⟨.ok a, w, ?_⟩
    rintro s rfl
    exact ⟨s.diagnostics, rfl⟩
  | throw fault =>
    refine ⟨.error fault, w, ?_⟩
    rintro s rfl
    exact ⟨s.diagnostics, rfl⟩
  | log line =>
    refine ⟨.ok (), w, ?_⟩
    rintro s rfl
    exact ⟨_, perform_log line s⟩
  | call c hc hopens =>
    refine ⟨(w.call c.act).1.mapError .write, (w.call c.act).2, ?_⟩
    rintro s rfl
    exact ⟨s.diagnostics, perform_write c.act s⟩
  | bind _ _ ihAct ihNext =>
    obtain ⟨fault | a, w', hact⟩ := ihAct w
    · refine ⟨.error fault, w', fun s hw => ?_⟩
      obtain ⟨ds, hs⟩ := hact s hw
      exact ⟨ds, by rw [perform_bind, hs]⟩
    · obtain ⟨result, w'', hbehind⟩ := ihNext a w'
      refine ⟨result, w'', fun s hw => ?_⟩
      obtain ⟨ds, hs⟩ := hact s hw
      rw [perform_bind, hs]
      exact hbehind ⟨w', s.policy, s.tally, ds⟩ rfl

/-- A bare part does what it does whatever the policy is. -/
theorem Bare.acts_of_does (h : Bare opens act) (hdoes : Does act w given result w')
    (hw : s.output = w) : ∃ ds, act.perform s = (result, ⟨w', s.policy, s.tally, ds⟩) := by
  obtain ⟨result', w'', hact⟩ := h.acts w
  obtain ⟨ds, hfirst⟩ := hact ⟨w, .standard, {}, #[]⟩ rfl
  obtain ⟨ds', hsecond⟩ :=
    Does.perform (s := ⟨w, .standard, {}, #[]⟩) hdoes Policy.neverRaises_standard
  obtain ⟨rfl, hsession⟩ := Prod.mk.inj (hfirst.symm.trans hsecond)
  obtain rfl : w'' = w' := congrArg Session.output hsession
  exact hact s hw

/-! ## Parts that may be given up -/

/-- A part that succeeds is not given up. -/
theorem Does.tried {a : α} (hbare : Bare opens act) (h : Does act w [] (.ok a) w')
    (op : Operation) (target : Target) : Does (attempt op target act) w [] (.ok ()) w' := by
  refine does_of_perform fun s hw => ?_
  obtain ⟨ds, hact⟩ := hbare.acts_of_does h hw
  exact ⟨ds, by rw [perform_attempt, hact]⟩

/-- **A part that is given up** submits its fault. -/
theorem Does.survived (hbare : Bare opens act) (h : Does act w [] (.error fault) w')
    (hr : fault.isRecoverable = true) (op : Operation) (target : Target) :
    Does (attempt op target act) w [⟨fault, op, target⟩] (.ok ()) w' := by
  rintro p s hw rfl
  obtain ⟨ds, hact⟩ := hbare.acts_of_does h hw
  rw [perform_attempt, hact]
  dsimp only
  rw [if_pos hr]
  cases houtcome : (s.policy.handle fault op target).outcome with
  | ok fallback => exact .inl ⟨_, rfl⟩
  | error raised => exact .inr ⟨raised, _, rfl, [], ⟨fault, op, target⟩, hr, houtcome, rfl⟩

/-- A part that fails for good is not given up either. -/
theorem Does.failed (hbare : Bare opens act) (h : Does act w [] (.error fault) w')
    (hr : fault.isRecoverable = false) (op : Operation) (target : Target) :
    Does (attempt op target act) w [] (.error fault) w' := by
  refine does_of_perform fun s hw => ?_
  obtain ⟨ds, hact⟩ := hbare.acts_of_does h hw
  rw [perform_attempt, hact]
  exact ⟨ds, if_neg (by simp [hr])⟩

/-! ## Bare parts of reports -/

theorem Bare.discard (h : Bare opens act) : Bare opens (discard act) := by
  rw [discard_eq]
  exact h.bind fun _ => .pure ()

theorem bare_ask (answer : Except Fault α) (wrap : Fault → Fault) : Bare opens (ask answer wrap) := by
  cases answer with
  | ok a => exact .pure a
  | error fault => exact .throw (wrap fault)

theorem bare_writeAttribute (name value : String) : Bare opens (writeAttribute name value) :=
  .call (.writeAttribute name value) nofun nofun

theorem bare_base64 (name : String) (data : Bytes) (length : Int) : Bare opens (do
    Action.write (Writer.startAttribute name)
    Action.write (Writer.writeBase64 data 0 (some length))
    Action.write Writer.endAttribute) :=
  (Bare.call (.startAttribute name) nofun nofun).bind fun _ =>
    (Bare.call (.writeBase64 data 0 (some length)) nofun nofun).bind fun _ => .call .endAttribute nofun nofun

theorem bare_base64Attribute (name encodingName : String) (data : Bytes) :
    Bare opens (base64Attribute name encodingName data) :=
  (bare_writeAttribute _ _).bind fun _ => bare_base64 _ _ _

theorem bare_plainText (d : AttributeData) : Bare opens (plainText d) := by
  cases d with
  | text s => exact .pure _
  | bytes b =>
    unfold plainText
    dsimp only
    split
    · exact .pure _
    · exact .throw _

theorem bare_safeAttribute (name encodingName : Option String) (data : Option AttributeData) :
    Bare opens (safeAttribute name encodingName data) := by
  unfold safeAttribute
  split
  · exact .throw _
  next name encodingName data =>
    have hplain : Bare opens (do
        Action.write (Writer.writeAttribute name (← plainText data))
        return AttributeEncoding.plain) :=
      (bare_plainText data).bind fun _ => (bare_writeAttribute _ _).bind fun _ => .pure _
    have hencoded : Bare opens (do
        base64Attribute name encodingName data.terminated
        return AttributeEncoding.base64) :=
      (bare_base64Attribute _ _ _).bind fun _ => .pure _
    obtain ⟨_ | _, _ | line⟩ := recommend data
    · exact hplain
    · exact (Bare.log line).bind fun _ => hplain
    · exact hencoded
    · exact (Bare.log line).bind fun _ => hencoded
  · exact .throw _

theorem bare_startElement {name : String} (hname : opens name) :
    Bare opens (Action.write (Writer.startElement name)) :=
  .call (.startElement name) nofun fun _ h => Option.some.inj h ▸ hname

theorem bare_element {content : Action Writer α} {name : String} (hname : opens name)
    (h : Bare opens content) : Bare opens (element name content) :=
  (bare_startElement hname).bind fun _ => h.bind fun a =>
    (Bare.call .endElement nofun nofun).bind fun _ => .pure a

/-- The names of the elements inside those of nodes and values. -/
def Inner (name : String) : Prop :=
  name ∈ ["mtime", "string", "byte_runs", "byte_run"]

theorem bare_byteRun (offset length : Int) : Bare Inner (byteRun offset length) :=
  bare_element (by simp [Inner]) <| (bare_writeAttribute _ _).bind fun _ => bare_writeAttribute _ _

theorem bare_nodeByteRuns (src : Source) (n : Node) : Bare Inner (nodeByteRuns src n) :=
  (bare_ask _ _).bind fun _ => bare_element (by simp [Inner]) (bare_byteRun _ _)

theorem bare_valueByteRuns (src : Source) (v : Value) : Bare Inner (valueByteRuns src v) := by
  refine (bare_ask _ _).bind fun length => (bare_ask _ _).bind fun cell => ?_
  refine bare_element (by simp [Inner]) ((bare_byteRun _ _).bind fun _ => ?_)
  split
  · exact (bare_byteRun _ _).bind fun _ => .pure 2
  · exact .pure 1

/-! ## Composed parts -/

/-- The ways in which parts of a report are put together. What is given up as a whole gives nothing
up itself, and is no listing. -/
inductive Composed (opens : String → Prop) : {α : Type} → Action Writer α → Prop
  | bare {α : Type} {act : Action Writer α} (h : Bare opens act) : Composed opens act
  | bind {α β : Type} {act : Action Writer α} {next : α → Action Writer β}
    (hact : Composed opens act) (hnext : ∀ a, Composed opens (next a)) :
    Composed opens (act >>= next)
  | recover {α : Type} {part : Action Writer α} {op : Operation} (hop : op.isListing = false)
    (target : Target) (goOn : Option Int → α) (hpart : Bare opens part) :
    Composed opens (recover op target goOn part)

variable {opens' : String → Prop}

/-- A part may also be taken to open other elements. -/
theorem Bare.mono (h : Bare opens act) (hle : ∀ name, opens name → opens' name) :
    Bare opens' act := by
  induction h with
  | pure a => exact .pure a
  | throw fault => exact .throw fault
  | log line => exact .log line
  | call c hc hopens => exact .call c hc fun name hname => hle name (hopens name hname)
  | bind _ _ ihAct ihNext => exact ihAct.bind ihNext

theorem Composed.mono (h : Composed opens act) (hle : ∀ name, opens name → opens' name) :
    Composed opens' act := by
  induction h with
  | bare h => exact .bare (h.mono hle)
  | bind _ _ ihAct ihNext => exact ihAct.bind ihNext
  | recover hop target goOn hpart => exact .recover hop target goOn (hpart.mono hle)

theorem Composed.attempt {op : Operation} (hop : op.isListing = false) (target : Target)
    (hpart : Bare opens act) : Composed opens (attempt op target act) :=
  .recover hop target _ hpart.discard

theorem Composed.pure (a : α) : Composed opens (Pure.pure a) :=
  .bare (.pure a)

theorem Composed.map {f : α → β} (h : Composed opens act) : Composed opens (f <$> act) := by
  rw [map_eq_pure_bind]
  exact h.bind fun a => .pure (f a)

theorem Composed.discard (h : Composed opens act) : Composed opens (discard act) :=
  h.map

/-- Parts of a sequence. -/
theorem Composed.forM {f : β → Action Writer Unit} (h : ∀ b, Composed opens (f b))
    (bs : List β) : Composed opens (bs.forM f) := by
  induction bs with
  | nil => exact .pure ()
  | cons b bs ih => exact (h b).bind fun _ => ih

/-! ## Attributes and elements -/

theorem composed_ask (answer : Except Fault α) (wrap : Fault → Fault) :
    Composed opens (ask answer wrap) :=
  .bare (bare_ask answer wrap)

theorem composed_writeAttribute (name value : String) :
    Composed opens (writeAttribute name value) :=
  .bare (bare_writeAttribute name value)

theorem composed_endElement : Composed opens (Action.write Writer.endElement) :=
  .bare (.call .endElement nofun nofun)

theorem composed_nameAttribute {op : Operation} (hop : op.isListing = false) (target : Target)
    (attributeName : String) (name : Option String) (stored : Bytes) :
    Composed opens (nameAttribute op target attributeName name stored) := by
  unfold nameAttribute
  dsimp only
  split
  · exact .bare (bare_base64Attribute _ _ _)
  · exact .attempt hop target (bare_safeAttribute _ _ _)

theorem composed_element {content : Action Writer α} {name : String} (hname : opens name)
    (h : Composed opens content) : Composed opens (element name content) :=
  (Composed.bare (bare_startElement hname)).bind fun _ => h.bind fun a =>
    composed_endElement.bind fun _ => .pure a

theorem composed_timeElement (ticks : Option Int) : Composed Inner (timeElement ticks) := by
  unfold timeElement
  split
  · exact .pure false
  · refine (composed_element (by simp [Inner]) ?_).bind fun _ => .pure true
    exact .bare (.call (.writeText _) nofun nofun)

/-! ## Nodes and values -/

/-- What follows the start tag of a node. -/
theorem composed_nodeTag (src : Source) (n : Node) : Composed Inner (do
    nameAttribute "node_start" (.node n) "name" n.name n.storedName
    if src.isRoot n then writeAttribute "root" "1"
    discard <| timeElement (← nodeTime src n)
    attempt "node_byte_runs" (.node n) (nodeByteRuns src n)) := by
  have htime : Composed Inner (do
      discard <| timeElement (← nodeTime src n)
      attempt "node_byte_runs" (.node n) (nodeByteRuns src n)) := by
    refine (Composed.recover (by decide) _ id (bare_ask _ id)).bind fun time => ?_
    refine (composed_timeElement _).discard.bind fun _ => ?_
    exact .attempt (by decide) _ (bare_nodeByteRuns src n)
  refine (composed_nameAttribute (by decide) _ _ _ _).bind fun _ => ?_
  split
  · exact (composed_writeAttribute _ _).bind fun _ => htime
  · exact htime

/-- A part that opens an element of a name, and then inner ones. -/
theorem composed_opening {rest : Action Writer α} (name : String) (h : Composed Inner rest) :
    Composed (fun other => other = name ∨ Inner other)
      (Action.write (Writer.startElement name) >>= fun _ => rest) :=
  (Composed.bare (bare_startElement (.inl rfl))).bind fun _ => h.mono fun _ => .inr

theorem composed_nodeStart (src : Source) (n : Node) :
    Composed (fun name => name = "node" ∨ Inner name) (nodeStart src n) :=
  composed_opening "node" (composed_nodeTag src n)

theorem composed_nodeEnd : Composed Inner nodeEnd :=
  composed_endElement

/-- The attributes in the start tag of a value. -/
theorem composed_valueTag (v : Value) (type : String) (encoding : Option AttributeEncoding) :
    Composed opens (do
      writeAttribute "type" type
      match encoding with
      | some e => writeAttribute "value_encoding" e.name
      | none => Pure.pure ()
      if v.isDefault then writeAttribute "default" "1"
      else nameAttribute "start_value" (.value v) "key" v.key v.storedKey) := by
  have hkey : Composed opens (if v.isDefault then writeAttribute "default" "1"
      else nameAttribute "start_value" (.value v) "key" v.key v.storedKey) := by
    split
    · exact composed_writeAttribute _ _
    · exact composed_nameAttribute (by decide) _ _ _ _
  refine (composed_writeAttribute _ _).bind fun _ => ?_
  cases encoding with
  | none => exact hkey
  | some e => exact (composed_writeAttribute _ _).bind fun _ => hkey

theorem composed_base64Payload (raw : Bytes) (length : Int) :
    Composed opens (base64Payload raw length) :=
  .bare (bare_base64 _ _ _)

theorem composed_numberAttribute (bits : Nat) (p : Payload) :
    Composed opens (numberAttribute bits p) := by
  unfold numberAttribute
  split
  · exact composed_writeAttribute _ _
  · exact .bare (.throw _)

theorem composed_textElements (v : Value) (entries : List (Option String)) :
    Composed Inner (textElements v entries) :=
  .forM (fun _ => composed_element (by simp [Inner])
    (.attempt (by decide) _ (bare_safeAttribute _ _ _))) entries

theorem composed_payload (shape : Shape) (v : Value) (p : Payload) :
    Composed Inner (payload shape v p) := by
  cases shape with
  | string => exact .attempt (by decide) _ (bare_safeAttribute _ _ _)
  | strings => exact composed_textElements v _
  | dword => exact composed_numberAttribute 32 p
  | qword => exact composed_numberAttribute 64 p
  | badString => exact composed_base64Payload _ _
  | binary => exact composed_base64Payload _ _
  | none | other =>
    unfold payload
    dsimp only
    split
    · exact composed_base64Payload _ _
    · exact .pure ()

theorem composed_valueEnd (src : Source) (v : Value) : Composed Inner (valueEnd src v) :=
  (Composed.attempt (by decide) _ (bare_valueByteRuns src v)).bind fun _ => composed_endElement

theorem composed_present (src : Source) (shape : Shape) (v : Value) (p : Payload) :
    Composed (fun name => name = "value" ∨ Inner name) (present src shape v p) := by
  refine (composed_ask _ _).bind fun type => ?_
  refine (composed_opening "value" (composed_valueTag v type _)).bind fun _ => ?_
  have hcontent := (composed_payload shape v p).bind fun _ => composed_valueEnd src v
  exact hcontent.mono fun _ => .inr

theorem composed_value (src : Source) (v : Value) :
    Composed (fun name => name = "value" ∨ Inner name) (value src v) :=
  (composed_ask _ _).bind fun presented => composed_present src presented.1 v presented.2

end Report

/-! ## Start and end of a document -/

namespace Conversion

open Report

theorem composed_prologue (src : Source) :
    Composed (fun name => name = rootName ∨ Inner name) (prologue src) := by
  refine (Composed.bare (.call .startDocument nofun nofun)).bind fun _ => ?_
  have htime : Composed Inner (do
      discard <| Report.timeElement (← Report.ask src.lastModified id)) :=
    (composed_ask _ _).bind fun ticks => (composed_timeElement ticks).discard
  exact composed_opening rootName htime

theorem composed_finish : Composed Inner finish :=
  composed_endElement.bind fun _ =>
    (Composed.bare (.call .endDocument nofun nofun)).bind fun _ => .bare (.log _)

end Conversion

end HiveDump
