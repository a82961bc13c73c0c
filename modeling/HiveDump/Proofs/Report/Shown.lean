import HiveDump.Proofs.Report.Brings
import HiveDump.Proofs.Report.Elements

/-!
# What a report shows of nodes

Attributes, byte runs and what is said of a node, as functions of what they show, with the faults
that are submitted on the way, apart from how they are written. The parts of a report write these,
in every encoding and behind every document that has an open element.

Results:
* `brings_safeAttribute`, `brings_nameAttribute`: attributes that show texts and names;
* `brings_nodeByteRuns`, `brings_valueByteRuns`: byte runs; where a question fails, nothing of them
  is written;
* `nodeTime_survives`: the time stamp of a node, which the policy may have to give;
* **`nodeStart_survives`**: a node is entered; `nodeStart_fails`: one about which a question fails
  for good.
-/

namespace HiveDump.Report

open HiveDump.Action Markup Markup.Tree

variable {encoding name n e : String} {attributes as : List Attribute} {g : Growing}
  {given more : List Policy.Submission} {fault : Fault}

/-! ## Attributes -/

/-- Bytes in base64, behind the attribute that says so. -/
def base64Shown (name encodingName : String) (data : Bytes) : List Attribute :=
  [⟨encodingName, AttributeEncoding.base64.name⟩, ⟨name, Base64.text data⟩]

/-- Data that starts with printable ASCII, as text. -/
def plainShown : AttributeData → Except Fault String
  | .text s => .ok (untilNul s)
  | .bytes b =>
    if b.all (· < 0x80) then .ok (untilNul (String.ofList (b.map fun x => Char.ofNat x.toNat)))
    else .error .notASCII

/-- Data as it is, if that is safe, and otherwise in base64. -/
def dataShown (name encodingName : String) (d : AttributeData) : Except Fault (List Attribute) :=
  match (recommend d).1 with
  | .plain => (plainShown d).map fun text => [⟨name, text⟩]
  | .base64 => .ok (base64Shown name encodingName d.terminated)

/-- A text as it is, if that is safe, and otherwise in base64. -/
def textShown (name encodingName s : String) : List Attribute :=
  match (recommend (.text s)).1 with
  | .plain => [⟨name, untilNul s⟩]
  | .base64 => base64Shown name encodingName (AttributeData.text s).terminated

theorem dataShown_text (name encodingName s : String) :
    dataShown name encodingName (.text s) = .ok (textShown name encodingName s) := by
  unfold dataShown textShown
  cases (recommend (.text s)).1 <;> rfl

/-- The name of a node or value, with what is submitted if it has none. -/
def nameShown (op : Operation) (target : Target) (attributeName : String) (name : Option String)
    (stored : Bytes) : List Policy.Submission × List Attribute :=
  match name with
  | some s => ([], textShown attributeName (attributeName ++ "_encoding") s)
  | none =>
    if stored.isEmpty then ([⟨.missingAttributeData (some attributeName), op, target⟩], [])
    else ([], base64Shown attributeName (attributeName ++ "_encoding") stored)

theorem names_textShown (name encodingName s : String) :
    ∀ a ∈ textShown name encodingName s, a.name = name ∨ a.name = encodingName := by
  unfold textShown base64Shown
  split <;> simp

theorem names_nameShown (op : Operation) (target : Target) (attributeName : String)
    (name : Option String) (stored : Bytes) :
    ∀ a ∈ (nameShown op target attributeName name stored).2,
      a.name = attributeName ∨ a.name = attributeName ++ "_encoding" := by
  cases name with
  | some s => exact names_textShown _ _ s
  | none =>
    unfold nameShown base64Shown
    dsimp only
    split <;> simp

theorem slice_length (b : Bytes) : b.slice 0 b.length = b := by
  rw [Bytes.slice_zero, List.take_length]

theorem brings_base64Attribute (hn : isName n = true) (he : isName e = true) (hne : n ≠ e)
    (hnew : n ∉ attributes.map (·.name)) (henew : e ∉ attributes.map (·.name)) (data : Bytes) :
    Brings (Takes encoding name attributes g) (base64Attribute n e data) [] ()
      (Takes encoding name (attributes ++ base64Shown n e data) g) := by
  have hlegal : legal AttributeEncoding.base64.name = true := by decide
  have hnew' :
      n ∉ (attributes ++ [(⟨e, AttributeEncoding.base64.name⟩ : Attribute)]).map (·.name) := by
    simpa [hne] using hnew
  refine (brings_writeAttribute he hlegal henew).first ?_
  refine (brings_base64 hn hnew' data data.length).imp (fun _ h => h) fun w hw => ?_
  rwa [slice_length, List.append_assoc] at hw

theorem plainText_eq (d : AttributeData) : plainText d = ask (plainShown d) id := by
  cases d with
  | text s => rfl
  | bytes b =>
    unfold plainText plainShown
    dsimp only
    split <;> rfl

theorem legal_plainShown {d : AttributeData} {s : String} (hr : (recommend d).1 = .plain)
    (h : plainShown d = .ok s) : legal s = true := by
  have hplain (t : Session Writer) : (plainText d).perform t = (.ok s, t) := by
    rw [plainText_eq, h]
    rfl
  exact legal_of_printable (printable_plainText hr (hplain ⟨{ label := "" }, .standard, {}, #[]⟩)).1

/-- **Data is shown as it is or in base64.** -/
theorem brings_safeAttribute (hn : isName n = true) (he : isName e = true) (hne : n ≠ e)
    (hnew : n ∉ attributes.map (·.name)) (henew : e ∉ attributes.map (·.name)) {d : AttributeData}
    (h : dataShown n e d = .ok as) :
    Brings (Takes encoding name attributes g) (safeAttribute (some n) (some e) (some d)) []
      (recommend d).1 (Takes encoding name (attributes ++ as) g) := by
  have hplain (hr : (recommend d).1 = .plain) :
      Brings (Takes encoding name attributes g) (do
          Action.write (Writer.writeAttribute n (← plainText d))
          return AttributeEncoding.plain) [] .plain
        (Takes encoding name (attributes ++ as) g) := by
    rw [dataShown, hr] at h
    obtain ⟨s, hs, rfl⟩ := Failing.map_eq_ok.mp h
    rw [plainText_eq, hs]
    exact (brings_ask s id).first <|
      (brings_writeAttribute hn (legal_plainShown hr hs) hnew).first .pure
  have hencoded (hr : (recommend d).1 = .base64) :
      Brings (Takes encoding name attributes g) (do
          base64Attribute n e d.terminated
          return AttributeEncoding.base64) [] .base64
        (Takes encoding name (attributes ++ as) g) := by
    rw [dataShown, hr] at h
    cases h
    exact (brings_base64Attribute hn he hne hnew henew _).first .pure
  unfold safeAttribute
  rcases hr : recommend d with ⟨shown, line⟩
  rw [hr] at hplain hencoded
  simp only [hr]
  cases line with
  | none =>
    cases shown with
    | plain => exact hplain rfl
    | base64 => exact hencoded rfl
  | some line =>
    refine (brings_log line).first ?_
    cases shown with
    | plain => exact hplain rfl
    | base64 => exact hencoded rfl

/-- Data that is no text where it would be shown as text is refused. -/
theorem refuses_safeAttribute {d : AttributeData} (h : dataShown n e d = .error fault) :
    Refuses (safeAttribute (some n) (some e) (some d)) fault := by
  have hplain (hr : (recommend d).1 = .plain) : Refuses (do
      Action.write (Writer.writeAttribute n (← plainText d))
      return AttributeEncoding.plain) fault := by
    rw [dataShown, hr] at h
    rw [plainText_eq]
    cases hs : plainShown d with
    | ok s =>
      rw [hs] at h
      cases h
    | error other =>
      rw [hs] at h
      cases h
      exact (refuses_ask fault id).stop
  have hno (hr : (recommend d).1 = .base64) : False := by
    rw [dataShown, hr] at h
    cases h
  unfold safeAttribute
  rcases hr : recommend d with ⟨shown, line⟩
  rw [hr] at hplain hno
  simp only [hr]
  cases shown with
  | base64 => exact (hno rfl).elim
  | plain =>
    cases line with
    | none => exact hplain rfl
    | some line => exact fun w => (does_log line).bind (hplain rfl w)

/-- Without a text there is nothing to show. -/
theorem refuses_safeAttribute_none (n e : String) :
    Refuses (safeAttribute (some n) (some e) none) (.missingAttributeData (some n)) :=
  refuses_throw _

theorem brings_nameAttribute (op : Operation) (target : Target) (hn : isName n = true)
    (he : isName (n ++ "_encoding") = true) (hne : n ≠ n ++ "_encoding")
    (hnew : n ∉ attributes.map (·.name)) (henew : n ++ "_encoding" ∉ attributes.map (·.name))
    (text : Option String) (stored : Bytes) :
    Brings (Takes encoding name attributes g) (nameAttribute op target n text stored)
      (nameShown op target n text stored).1 ()
      (Takes encoding name (attributes ++ (nameShown op target n text stored).2) g) := by
  unfold nameAttribute nameShown
  cases text with
  | some s =>
    exact (brings_safeAttribute hn he hne hnew henew (dataShown_text _ _ s)).tried
      (bare_safeAttribute _ _ _) op target
  | none =>
    cases hstored : stored.isEmpty with
    | true =>
      simp only [Option.isNone_none, Bool.not_true, Bool.and_false, Bool.false_eq_true, if_false,
        if_true, List.append_nil]
      exact (refuses_safeAttribute_none n _).survived (bare_safeAttribute _ _ _) rfl op target
    | false => exact brings_base64Attribute hn he hne hnew henew stored

/-! ## Elements -/

/-- A time stamp, if there is one. -/
def timeShown (ticks : Option Int) : List Tree :=
  match FileTime.optionalText? ticks with
  | some s => [.element "mtime" [] [.text s]]
  | none => []

theorem brings_timeElement (hinner : g.outer ≠ []) (ticks : Option Int) :
    Brings (Stands encoding g) (timeElement ticks) [] (FileTime.optionalText? ticks).isSome
      (Stands encoding (g.add (timeShown ticks))) := by
  unfold timeElement timeShown
  cases htext : FileTime.optionalText? ticks with
  | none =>
    rw [Growing.add_nil]
    exact .pure
  | some s =>
    obtain ⟨hprintable, hne⟩ := printable_time htext
    have hcontent : Brings (Takes encoding "mtime" [] g) (Action.write (Writer.writeText s)) [] ()
        (Stands encoding ((g.opened "mtime" []).add [.text s])) :=
      .write fun _ hw => Writer.At.writeText hw.stands (by simp [Growing.opened]) hne
        (legal_of_printable hprintable) trivial
    exact (brings_element hinner (by decide) hcontent).first .pure

theorem legal_decimal (n : Int) : legal (toString n) = true :=
  legal_of_printable (printable_decimal n)

theorem brings_byteRun (hinner : g.outer ≠ []) (offset length : Int) :
    Brings (Stands encoding g) (byteRun offset length) [] ()
      (Stands encoding (g.add [byteRunTree offset length])) := by
  refine brings_element hinner (by decide) ?_
  refine (brings_writeAttribute (by decide) (legal_decimal offset) (by simp)).first ?_
  refine (brings_writeAttribute (by decide) (legal_decimal length) (by simp)).imp (fun _ h => h) ?_
  intro w hw
  rw [Growing.add_nil]
  exact hw.stands

/-- Byte runs, by their offsets and lengths. -/
def runsTree (runs : List (Int × Int)) : Tree :=
  .element "byte_runs" [] (runs.map fun run => byteRunTree run.1 run.2)

/-- The byte runs of a node. -/
def nodeRuns (src : Source) (n : Node) : Except Fault (List (Int × Int)) :=
  match src.nodeLength n with
  | .ok length => .ok [(n.handle, length)]
  | .error fault => .error (nodeFault n.handle fault)

/-- The byte runs of a value. -/
def valueRuns (src : Source) (v : Value) : Except Fault (List (Int × Int)) :=
  match src.valueLength v with
  | .error fault => .error (valueFault v.handle fault)
  | .ok length =>
    match src.dataCell v with
    | .error fault => .error (cellFault v.handle fault)
    | .ok cell =>
      .ok ((v.handle, length) :: if inlineLimit < cell.2 then [cell] else [])

theorem brings_nodeByteRuns (hinner : g.outer ≠ []) {src : Source} {n : Node}
    {runs : List (Int × Int)} (h : nodeRuns src n = .ok runs) :
    Brings (Stands encoding g) (nodeByteRuns src n) [] ()
      (Stands encoding (g.add [runsTree runs])) := by
  unfold nodeRuns at h
  unfold nodeByteRuns
  cases hlength : src.nodeLength n with
  | error fault =>
    rw [hlength] at h
    cases h
  | ok length =>
    rw [hlength] at h
    cases h
    refine (brings_ask length _).first (brings_element hinner (by decide) ?_)
    exact (brings_byteRun (outer_opened_ne_nil _ _) _ _).imp (fun _ hw => hw.stands) fun _ h => h

theorem refuses_nodeByteRuns {src : Source} {n : Node} (h : nodeRuns src n = .error fault) :
    Refuses (nodeByteRuns src n) fault := by
  unfold nodeRuns at h
  unfold nodeByteRuns
  cases hlength : src.nodeLength n with
  | error other =>
    rw [hlength] at h
    cases h
    exact (refuses_ask other _).stop
  | ok length =>
    rw [hlength] at h
    cases h

/-- Both questions are asked before anything is written. -/
theorem brings_valueByteRuns (hinner : g.outer ≠ []) {src : Source} {v : Value}
    {runs : List (Int × Int)} (h : valueRuns src v = .ok runs) :
    Brings (Stands encoding g) (valueByteRuns src v) [] runs.length
      (Stands encoding (g.add [runsTree runs])) := by
  unfold valueRuns at h
  unfold valueByteRuns
  cases hlength : src.valueLength v with
  | error fault =>
    rw [hlength] at h
    cases h
  | ok length =>
    cases hcell : src.dataCell v with
    | error fault =>
      rw [hlength, hcell] at h
      cases h
    | ok cell =>
      rw [hlength, hcell] at h
      cases h
      refine (brings_ask length _).first ((brings_ask cell _).first ?_)
      refine brings_element hinner (by decide) ?_
      have hopen : (g.opened "byte_runs" []).outer ≠ [] := outer_opened_ne_nil _ _
      have hfirst : Brings (Takes encoding "byte_runs" [] g) (byteRun v.handle length) [] ()
          (Stands encoding ((g.opened "byte_runs" []).add [byteRunTree v.handle length])) :=
        (brings_byteRun hopen _ _).imp (fun _ hw => hw.stands) fun _ h => h
      refine hfirst.first ?_
      split
      · have hsecond : Brings
            (Stands encoding ((g.opened "byte_runs" []).add [byteRunTree v.handle length]))
            (byteRun cell.1 cell.2) [] ()
            (Stands encoding ((g.opened "byte_runs" []).add
              [byteRunTree v.handle length, byteRunTree cell.1 cell.2])) := by
          have hbehind : ((g.opened "byte_runs" []).add
            [byteRunTree v.handle length]).outer ≠ [] := hopen
          refine (brings_byteRun hbehind _ _).imp (fun _ h => h) fun _ hw => ?_
          rwa [Growing.add_add] at hw
        exact hsecond.first .pure
      · exact .pure

theorem refuses_valueByteRuns {src : Source} {v : Value} (h : valueRuns src v = .error fault) :
    Refuses (valueByteRuns src v) fault := by
  unfold valueRuns at h
  unfold valueByteRuns
  cases hlength : src.valueLength v with
  | error other =>
    rw [hlength] at h
    cases h
    exact (refuses_ask other _).stop
  | ok length =>
    rw [hlength] at h
    cases hcell : src.dataCell v with
    | error other =>
      rw [hcell] at h
      cases h
      exact fun w => (does_pure length).bind ((refuses_ask other _).stop w)
    | ok cell =>
      rw [hcell] at h
      cases h

/-! ## Parts that are given up -/

/-- Whether a part that fails is given up. -/
def Survives {α : Type} (x : Except Fault α) : Prop :=
  ∀ fault, x = .error fault → fault.isRecoverable = true

theorem survives_of_ok {α : Type} {x : Except Fault α} {a : α} (h : x = .ok a) : Survives x := by
  rintro fault hfault
  rw [h] at hfault
  cases hfault

/-- What an operation leaves of what it was to show: nothing if it failed, and then its fault is
submitted. -/
def leftOf {α : Type} (op : Operation) (target : Target) (tree : α → List Tree) :
    Except Fault α → List Policy.Submission × List Tree
  | .ok a => ([], tree a)
  | .error fault => ([⟨fault, op, target⟩], [])

/-- What is left of byte runs. -/
def runsLeft (op : Operation) (target : Target) (runs : Except Fault (List (Int × Int))) :
    List Policy.Submission × List Tree :=
  leftOf op target (fun runs => [runsTree runs]) runs

/-- Byte runs, or what is left of them. -/
theorem brings_attempt {α : Type} {part : Action Writer α} {op : Operation} {target : Target}
    {runs : Except Fault (List (Int × Int))} (hbare : Bare Inner part) (hsurvives : Survives runs)
    (hok : ∀ shown, runs = .ok shown →
      ∃ a, Brings (Stands encoding g) part [] a (Stands encoding (g.add [runsTree shown])))
    (herror : ∀ fault, runs = .error fault → Refuses part fault) :
    Brings (Stands encoding g) (attempt op target part) (runsLeft op target runs).1 ()
      (Stands encoding (g.add (runsLeft op target runs).2)) := by
  cases runs with
  | ok shown =>
    obtain ⟨a, hbrings⟩ := hok shown rfl
    exact hbrings.tried hbare op target
  | error fault =>
    have hnothing : g.add (runsLeft op target (.error fault)).2 = g := Growing.add_nil
    rw [hnothing]
    exact (herror fault rfl).survived hbare (hsurvives fault rfl) op target

/-! ## Nodes -/

/-- The attributes of a node, with what is submitted if it has no name. -/
def nodeMarks (src : Source) (n : Node) : List Policy.Submission × List Attribute :=
  let name := nameShown "node_start" (.node n) "name" n.name n.storedName
  (name.1, name.2 ++ if src.isRoot n then [rootMark] else [])

/-- What is left of the byte runs of a node. -/
def nodeRunsLeft (src : Source) (n : Node) : List Policy.Submission × List Tree :=
  runsLeft "node_byte_runs" (.node n) (nodeRuns src n)

/-- The start tag of a node. -/
def nodeHead (src : Source) (n : Node) : Action Writer Unit := do
  Action.write (Writer.startElement "node")
  nameAttribute "node_start" (.node n) "name" n.name n.storedName
  if src.isRoot n then writeAttribute "root" "1"

/-- What is said of a node itself, with a time stamp. -/
def nodePlace (src : Source) (n : Node) (ticks : Option Int) : Action Writer Unit := do
  discard <| timeElement ticks
  attempt "node_byte_runs" (.node n) (nodeByteRuns src n)

theorem nodeStart_eq (src : Source) (n : Node) :
    nodeStart src n = nodeHead src n >>= fun _ => nodeTime src n >>= nodePlace src n := by
  unfold nodeStart nodeHead nodePlace
  cases src.isRoot n <;> simp [bind_assoc]

theorem brings_nodeHead (src : Source) (n : Node) :
    Brings (Stands encoding g) (nodeHead src n) (nodeMarks src n).1 ()
      (Takes encoding "node" (nodeMarks src n).2 g) := by
  have hname : Brings (Takes encoding "node" [] g)
      (nameAttribute "node_start" (.node n) "name" n.name n.storedName)
      (nameShown "node_start" (.node n) "name" n.name n.storedName).1 ()
      (Takes encoding "node" ([] ++ (nameShown "node_start" (.node n) "name" n.name
        n.storedName).2) g) :=
    brings_nameAttribute _ _ (by decide) (by decide) (by decide) (by simp) (by simp) _ _
  refine (brings_startElement (by decide)).first (hname.last ?_)
  unfold nodeMarks
  cases src.isRoot n with
  | false =>
    simp only [List.nil_append, if_neg Bool.false_ne_true, List.append_nil]
    exact .pure
  | true =>
    have hnew : "root" ∉ ([] ++ (nameShown "node_start" (.node n) "name" n.name
        n.storedName).2).map Attribute.name := by
      rw [List.nil_append]
      intro hm
      obtain ⟨a, ha, hroot⟩ := List.mem_map.mp hm
      rcases names_nameShown _ _ _ _ _ a ha with hname | hname <;> rw [hname] at hroot <;>
        exact absurd hroot (by decide)
    exact brings_writeAttribute (by decide) (by decide) hnew

/-- What is said of a node, once it is known which time stamp it has. -/
theorem brings_nodePlace {src : Source} {n : Node} (hruns : Survives (nodeRuns src n))
    (ticks : Option Int) :
    Brings (Takes encoding "node" attributes g) (nodePlace src n ticks) (nodeRunsLeft src n).1 ()
      (Stands encoding ((g.opened "node" attributes).add
        (timeShown ticks ++ (nodeRunsLeft src n).2))) := by
  have hinner : (g.opened "node" attributes).outer ≠ [] := outer_opened_ne_nil _ _
  refine Brings.imp ?_ (fun _ hw => hw.stands) fun _ h => h
  refine (brings_timeElement hinner ticks).discard.first ?_
  rw [← Growing.add_add]
  have hbehind : ((g.opened "node" attributes).add (timeShown ticks)).outer ≠ [] := hinner
  exact brings_attempt (bare_nodeByteRuns src n) hruns
    (fun _ h => ⟨(), brings_nodeByteRuns hbehind h⟩) fun _ => refuses_nodeByteRuns

theorem ends_nodePlace {src : Source} {n : Node} (hruns : nodeRuns src n = .error fault)
    (hr : fault.isRecoverable = false) (ticks : Option Int) :
    Ends (Takes encoding "node" attributes g) (nodePlace src n ticks) fault := by
  have hinner : (g.opened "node" attributes).outer ≠ [] := outer_opened_ne_nil _ _
  have htime : Brings (Takes encoding "node" attributes g) (discard <| timeElement ticks) [] () _ :=
    (brings_timeElement hinner ticks).discard.imp (fun _ hw => hw.stands) fun _ h => h
  exact htime.ends ((refuses_nodeByteRuns hruns).failed (bare_nodeByteRuns src n) hr _ _).ends

/-- What is submitted for the time stamp of a node. -/
def stampGiven (src : Source) (n : Node) : List Policy.Submission :=
  match src.timestamp n with
  | .ok _ => []
  | .error fault => [⟨fault, "node_timestamp", .node n⟩]

/-- The time stamp of a node under a policy, which may have one to go on with. -/
def stampUnder (p : Policy) (src : Source) (n : Node) : Option Int :=
  match src.timestamp n with
  | .ok ticks => ticks
  | .error fault => (p.handle fault "node_timestamp" (.node n)).time

/-- **The time stamp of a node**, where the question is answered or its failure survived. -/
theorem nodeTime_survives {src : Source} {n : Node} (hstamp : Survives (src.timestamp n))
    (p : Policy) (w : Writer) :
    DoesUnder p (nodeTime src n) w (stampGiven src n) (.ok (stampUnder p src n)) w := by
  rintro s rfl rfl
  unfold nodeTime stampGiven stampUnder
  rw [perform_recover]
  cases hticks : src.timestamp n with
  | ok ticks => exact .inl ⟨s.diagnostics, rfl⟩
  | error fault =>
    have hr := hstamp fault hticks
    have hask : (ask (.error fault) id : Action Writer (Option Int)).perform s = (.error fault, s) :=
      rfl
    rw [hask]
    dsimp only
    rw [if_pos hr]
    cases houtcome : (s.policy.handle fault "node_timestamp" (.node n)).outcome with
    | ok fallback => exact .inl ⟨_, rfl⟩
    | error raised =>
      exact .inr ⟨raised, _, rfl, [], ⟨fault, "node_timestamp", .node n⟩, hr, houtcome, rfl⟩

theorem nodeTime_fails {src : Source} {n : Node} (hstamp : src.timestamp n = .error fault)
    (hr : fault.isRecoverable = false) (w : Writer) :
    Does (nodeTime src n) w [] (.error fault) w := by
  refine does_of_perform ?_
  rintro s rfl
  unfold nodeTime
  rw [perform_recover, hstamp]
  exact ⟨s.diagnostics, if_neg (by simp [hr])⟩

/-- The faults that are submitted for what is said of a node. -/
def nodeGiven (src : Source) (n : Node) : List Policy.Submission :=
  (nodeMarks src n).1 ++ (stampGiven src n ++ (nodeRunsLeft src n).1)

/-- What is said of a node under a policy, in front of everything else inside its element. -/
def nodeFront (p : Policy) (src : Source) (n : Node) : List Tree :=
  timeShown (stampUnder (p.after (nodeMarks src n).1) src n) ++ (nodeRunsLeft src n).2

/-- **A node is entered**: its element is open, with what is said of it inside. -/
theorem nodeStart_survives {src : Source} {n : Node} (hstamp : Survives (src.timestamp n))
    (hruns : Survives (nodeRuns src n)) {w : Writer} (hw : Stands encoding g w) (p : Policy) :
    ∃ w', DoesUnder p (nodeStart src n) w (nodeGiven src n) (.ok ()) w' ∧
      Stands encoding ((g.opened "node" (nodeMarks src n).2).add (nodeFront p src n)) w' := by
  obtain ⟨w₁, hhead, hw₁⟩ := brings_nodeHead src n w hw
  have htime := nodeTime_survives hstamp (p.after (nodeMarks src n).1) w₁
  obtain ⟨w', hplace, hw'⟩ :=
    brings_nodePlace hruns (stampUnder (p.after (nodeMarks src n).1) src n) w₁ hw₁
  rw [nodeStart_eq]
  exact ⟨w', (hhead p).bind (htime.bind (hplace _)), hw'⟩

/-- A node about which a question fails for good ends the report. -/
theorem nodeStart_fails {src : Source} {n : Node}
    (h : src.timestamp n = .error fault ∨
      Survives (src.timestamp n) ∧ nodeRuns src n = .error fault)
    (hr : fault.isRecoverable = false) {w : Writer} (hw : Stands encoding g w) (p : Policy) :
    ∃ given w', DoesUnder p (nodeStart src n) w given (.error fault) w' := by
  obtain ⟨w₁, hhead, hw₁⟩ := brings_nodeHead src n w hw
  rw [nodeStart_eq]
  rcases h with hstamp | ⟨hstamp, hruns⟩
  · exact ⟨_, w₁, (hhead p).bind (nodeTime_fails hstamp hr w₁ _).stop⟩
  · have htime := nodeTime_survives hstamp (p.after (nodeMarks src n).1) w₁
    obtain ⟨given, w', hplace⟩ := ends_nodePlace hruns hr _ w₁ hw₁
    exact ⟨_, w', (hhead p).bind (htime.bind (hplace _))⟩

end HiveDump.Report
