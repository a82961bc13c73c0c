import HiveDump.Proofs.Report.Shown

/-!
# What a report shows of values

The element of a value as a function of what it shows, with the faults that are submitted on the
way. A value that its step cannot show ends the report.

Results:
* `brings_valueStart`, `brings_payload`, `brings_valueEnd`: the parts of the element;
* **`brings_value`**: a value is written as a whole; `fails_value`: it is left open;
* **`ends_value`**: a value that cannot be shown.
-/

namespace HiveDump.Report

open HiveDump.Action Markup Markup.Tree

variable {encoding name n e : String} {attributes as : List Attribute} {g : Growing}
  {given more : List Policy.Submission} {fault : Fault}

/-! ## Values -/

/-- What is shown of a value: the attributes of its element and the texts in it, with the faults
that are submitted on the way. -/
structure ValueShown where
  given : List Policy.Submission := []
  attributes : List Attribute := []
  texts : List Tree := []

/-- The attributes in front of a value's payload, with what is submitted if the value has no
name. -/
def valueMarks (v : Value) (type : String) (encoding : Option AttributeEncoding) :
    List Policy.Submission × List Attribute :=
  let key := if v.isDefault then ([], [⟨"default", "1"⟩])
    else nameShown "start_value" (.value v) "key" v.key v.storedKey
  (key.1, ⟨"type", type⟩ :: (encoding.map fun e => ⟨"value_encoding", e.name⟩).toList ++ key.2)

theorem names_valueMarks (v : Value) (type : String) (encoding : Option AttributeEncoding) :
    ∀ a ∈ (valueMarks v type encoding).2, a.name ∈ valueNames encoding := by
  have hkey : ∀ a ∈ (if v.isDefault then ([], [⟨"default", "1"⟩])
      else nameShown "start_value" (.value v) "key" v.key v.storedKey :
        List Policy.Submission × List Attribute).2,
      a.name = "default" ∨ a.name = "key" ∨ a.name = "key_encoding" := by
    split
    · simp
    · exact fun a ha => .inr (names_nameShown _ _ _ _ _ a ha)
  intro a ha
  rcases List.mem_append.mp ha with ha | ha
  · cases encoding <;> simp_all [valueNames]
    rcases ha with rfl | rfl <;> simp
  · rcases hkey a ha with h | h | h <;> rw [h] <;> simp [valueNames]

/-- What is submitted of a text that is missing in a list. -/
def entryGiven (v : Value) : Option String → List Policy.Submission
  | some _ => []
  | none =>
    [⟨.missingAttributeData (some "value"), "value_multiple_strings", .value v⟩]

/-- A text of a list. -/
def entryTree : Option String → Tree
  | some s => .element "string" (textShown "value" "value_encoding" s) []
  | none => .element "string" [] []

/-- Bytes of a payload in base64. -/
def bytesShown (v : Value) (p : Payload) : ValueShown :=
  { attributes := [⟨"value", Base64.text ((payloadBytes p).slice 0 v.length)⟩] }

/-- A number of a width. -/
def numberShown (bits : Nat) : Payload → Except Fault ValueShown
  | .number n => .ok { attributes := [⟨"value", toString (signed bits n)⟩] }
  | _ => .error .notANumber

/-- The payload of a value in a step, or the fault that it cannot be shown. -/
def payloadShown (shape : Shape) (v : Value) (p : Payload) : Except Fault ValueShown :=
  match shape with
  | .string => match attributeData? p with
    | some d => (dataShown "value" "value_encoding" d).map fun as => { attributes := as }
    | none =>
      .ok { given := [⟨.missingAttributeData (some "value"), shape.handler, .value v⟩] }
  | .strings =>
    .ok { given := (textEntries p).flatMap (entryGiven v), texts := (textEntries p).map entryTree }
  | .dword => numberShown 32 p
  | .qword => numberShown 64 p
  | .badString | .binary => .ok (bytesShown v p)
  | .none | .other => .ok (if 0 < v.length then bytesShown v p else {})

/-- A value in the step for its shape, or the fault that it cannot be shown. -/
def valueShown (v : Value) : Except Fault ValueShown := do
  let (shape, p) ← v.presentation
  let type ← valueType shape v
  let shown ← payloadShown shape v p
  let marks := valueMarks v type (announced shape v)
  return { shown with
    given := marks.1 ++ shown.given
    attributes := marks.2 ++ shown.attributes }

/-- What is left of the byte runs of a value. -/
def valueRunsLeft (src : Source) (v : Value) : List Policy.Submission × List Tree :=
  runsLeft "value_byte_runs" (.value v) (valueRuns src v)

theorem new_of_names {used : List String} (h : ∀ a ∈ attributes, a.name ∈ used) (hnew : n ∉ used) :
    n ∉ attributes.map (·.name) := by
  intro hm
  obtain ⟨a, ha, rfl⟩ := List.mem_map.mp hm
  exact hnew (h a ha)

theorem brings_valueStart (v : Value) {type : String} (htype : legal type = true)
    (mark : Option AttributeEncoding) :
    Brings (Stands encoding g) (valueStart v type mark) (valueMarks v type mark).1 ()
      (Takes encoding "value" (valueMarks v type mark).2 g) := by
  have hkey {front : List Attribute} (hfront : ∀ a ∈ front, a.name ∈ ["type", "value_encoding"]) :
      Brings (Takes encoding "value" front g)
        (if v.isDefault then writeAttribute "default" "1"
          else nameAttribute "start_value" (.value v) "key" v.key v.storedKey)
        (valueMarks v type mark).1 ()
        (Takes encoding "value" (front ++ (if v.isDefault then ([], [⟨"default", "1"⟩])
          else nameShown "start_value" (.value v) "key" v.key v.storedKey :
            List Policy.Submission × List Attribute).2) g) := by
    unfold valueMarks
    split
    · exact brings_writeAttribute (by decide) (by decide) (new_of_names hfront (by decide))
    · exact brings_nameAttribute _ _ (by decide) (by decide) (by decide)
        (new_of_names hfront (by decide)) (new_of_names hfront (by decide)) _ _
  unfold valueStart
  refine (brings_startElement (by decide)).first ?_
  refine (brings_writeAttribute (by decide) htype (by simp)).first ?_
  cases mark with
  | none => exact hkey (by simp)
  | some e =>
    have hlegal : legal e.name = true := by cases e <;> decide
    refine (brings_writeAttribute (by decide) hlegal (by simp)).first ?_
    exact hkey (by simp)

theorem brings_textElement (hinner : g.outer ≠ []) (v : Value) (entry : Option String) :
    Brings (Stands encoding g)
      (element "string" <| attempt "value_multiple_strings" (.value v)
        (safeAttribute (some "value") (some "value_encoding") (entry.map .text)))
      (entryGiven v entry) () (Stands encoding (g.add [entryTree entry])) := by
  cases entry with
  | none =>
    refine brings_element hinner (by decide) ?_
    refine ((refuses_safeAttribute_none _ _).survived (bare_safeAttribute _ _ _) rfl _ _).imp
      (fun _ h => h) ?_
    intro w hw
    rw [Growing.add_nil]
    exact hw.stands
  | some s =>
    refine brings_element hinner (by decide) ?_
    refine ((brings_safeAttribute (by decide) (by decide) (by decide) (by simp) (by simp)
      (dataShown_text _ _ s)).tried (bare_safeAttribute _ _ _) _ _).imp (fun _ h => h) ?_
    intro w hw
    rw [Growing.add_nil]
    exact hw.stands

theorem brings_textElements (v : Value) (entries : List (Option String)) (hinner : g.outer ≠ []) :
    Brings (Stands encoding g) (textElements v entries) (entries.flatMap (entryGiven v)) ()
      (Stands encoding (g.add (entries.map entryTree))) := by
  induction entries generalizing g with
  | nil =>
    rw [List.map_nil, Growing.add_nil]
    exact .pure
  | cons entry entries ih =>
    have hbehind := ih (g := g.add [entryTree entry]) hinner
    rw [Growing.add_add] at hbehind
    exact (brings_textElement hinner v entry).bind hbehind

/-- A start tag whose element has nothing in it yet. -/
theorem Brings.closed {act : Action Writer Unit}
    (h : Brings (Takes encoding name attributes g) act given ()
      (Takes encoding name (attributes ++ as) g)) :
    Brings (Takes encoding name attributes g) act given ()
      (Stands encoding ((g.opened name (attributes ++ as)).add [])) := by
  rw [Growing.add_nil]
  exact h.imp (fun _ h => h) fun _ hw => hw.stands

/-- A start tag that stays as it is. -/
theorem Brings.closed_nil {act : Action Writer Unit}
    (h : Brings (Takes encoding name attributes g) act given ()
      (Takes encoding name attributes g)) :
    Brings (Takes encoding name attributes g) act given ()
      (Stands encoding ((g.opened name (attributes ++ [])).add [])) := by
  refine Brings.closed ?_
  rwa [List.append_nil]

/-- Whether a part shows the payload of a value whose start tag has these attributes. -/
def BringsPayload (encoding : String) (attributes : List Attribute) (g : Growing)
    (act : Action Writer Unit) (shown : ValueShown) : Prop :=
  Brings (Takes encoding "value" attributes g) act shown.given ()
    (Stands encoding ((g.opened "value" (attributes ++ shown.attributes)).add shown.texts))

theorem brings_base64Payload (hnew : "value" ∉ attributes.map (·.name)) (v : Value) (p : Payload) :
    BringsPayload encoding attributes g (base64Payload (payloadBytes p) v.length)
      (bytesShown v p) :=
  (brings_base64 (by decide) hnew _ _).closed

theorem brings_numberAttribute (hnew : "value" ∉ attributes.map (·.name)) {bits : Nat} {p : Payload}
    {shown : ValueShown} (h : numberShown bits p = .ok shown) :
    BringsPayload encoding attributes g (numberAttribute bits p) shown := by
  cases p with
  | number n =>
    cases h
    exact (brings_writeAttribute (by decide) (legal_decimal _) hnew).closed
  | _ => cases h

/-- **The payload of a value.** -/
theorem brings_payload {shape : Shape} {v : Value} {p : Payload} {shown : ValueShown}
    (hnames : ∀ a ∈ attributes, a.name ∈ valueNames (announced shape v))
    (h : payloadShown shape v p = .ok shown) :
    BringsPayload encoding attributes g (payload shape v p) shown := by
  have hnew : "value" ∉ attributes.map (·.name) := by
    refine new_of_names hnames ?_
    cases announced shape v <;> simp [valueNames]
  have hother : BringsPayload encoding attributes g
      (if 0 < v.length then base64Payload (payloadBytes p) v.length else Pure.pure ())
      (if 0 < v.length then bytesShown v p else {}) := by
    split
    · exact brings_base64Payload hnew v p
    · exact Brings.pure.closed_nil
  cases shape with
  | string =>
    have hnone : "value_encoding" ∉ valueNames none := by decide
    have henew : "value_encoding" ∉ attributes.map (·.name) := new_of_names hnames hnone
    unfold payloadShown at h
    unfold payload
    dsimp only at h ⊢
    cases hd : attributeData? p with
    | none =>
      rw [hd] at h
      cases h
      exact ((refuses_safeAttribute_none _ _).survived (bare_safeAttribute _ _ _) rfl _
        _).closed_nil
    | some d =>
      rw [hd] at h
      obtain ⟨as, has, rfl⟩ := Failing.map_eq_ok.mp h
      exact ((brings_safeAttribute (by decide) (by decide) (by decide) hnew henew has).tried
        (bare_safeAttribute _ _ _) _ _).closed
  | strings =>
    cases h
    refine (brings_textElements v _ (outer_opened_ne_nil _ _)).imp (fun _ hw => ?_) fun _ h => h
    rw [List.append_nil]
    exact hw.stands
  | dword => exact brings_numberAttribute hnew h
  | qword => exact brings_numberAttribute hnew h
  | badString =>
    cases h
    exact brings_base64Payload hnew v p
  | binary =>
    cases h
    exact brings_base64Payload hnew v p
  | none =>
    cases h
    exact hother
  | other =>
    cases h
    exact hother

theorem dataShown_eq_error {d : AttributeData} (h : dataShown n e d = .error fault) :
    fault = .notASCII := by
  unfold dataShown at h
  split at h
  · have hplain := Failing.map_eq_error.mp h
    unfold plainShown at hplain
    split at hplain
    · cases hplain
    · split at hplain
      · cases hplain
      · exact (Except.error.inj hplain).symm
  · cases h

/-- A payload that cannot be shown. -/
theorem refuses_payload {shape : Shape} {v : Value} {p : Payload}
    (h : payloadShown shape v p = .error fault) : Refuses (payload shape v p) fault := by
  have hnumber {bits : Nat} (h : numberShown bits p = .error fault) :
      Refuses (numberAttribute bits p) fault := by
    cases p with
    | number n => cases h
    | _ =>
      cases h
      exact refuses_throw _
  cases shape with
  | string =>
    unfold payloadShown at h
    unfold payload
    dsimp only at h ⊢
    cases hd : attributeData? p with
    | none =>
      rw [hd] at h
      cases h
    | some d =>
      rw [hd] at h
      have herror := Failing.map_eq_error.mp h
      obtain rfl := dataShown_eq_error herror
      exact (refuses_safeAttribute herror).failed (bare_safeAttribute _ _ _) rfl _ _
  | dword => exact hnumber h
  | qword => exact hnumber h
  | _ => cases h

/-- A value up to what is said of its place. -/
def valueFront (v : Value) : Action Writer Unit := do
  let (shape, p) ← ask v.presentation id
  let type ← ask (valueType shape v) id
  valueStart v type (announced shape v)
  payload shape v p

theorem value_eq (src : Source) (v : Value) : value src v = valueFront v >>= fun _ => valueEnd src v := by
  unfold value present valueFront
  simp only [bind_assoc]

/-- The element of a value is open behind its payload. -/
theorem brings_valueFront {v : Value} {shown : ValueShown} (h : valueShown v = .ok shown) :
    Brings (Stands encoding g) (valueFront v) shown.given ()
      (Stands encoding ((g.opened "value" shown.attributes).add shown.texts)) := by
  unfold valueShown at h
  obtain ⟨⟨shape, p⟩, hpresented, h⟩ := Failing.bind_eq_ok.mp h
  obtain ⟨type, htype, h⟩ := Failing.bind_eq_ok.mp h
  obtain ⟨payload, hpayload, h⟩ := Failing.bind_eq_ok.mp h
  cases h
  have hlegal : legal type = true := legal_of_printable (plain_valueType htype).1
  unfold valueFront
  rw [hpresented]
  refine (brings_ask (shape, p) id).first ?_
  dsimp only
  rw [htype]
  refine (brings_ask type id).first <| (brings_valueStart v hlegal _).bind ?_
  exact brings_payload (names_valueMarks v type _) hpayload

theorem brings_valueEnd {src : Source} {v : Value} {texts : List Tree} (hinner : g.outer ≠ [])
    (hruns : Survives (valueRuns src v)) :
    Brings (Stands encoding ((g.opened "value" attributes).add texts)) (valueEnd src v)
      (valueRunsLeft src v).1 ()
      (Stands encoding
        (g.add [.element "value" attributes (texts ++ (valueRunsLeft src v).2)])) := by
  have hopen : ((g.opened "value" attributes).add texts).outer ≠ [] := outer_opened_ne_nil _ _
  refine (brings_attempt (bare_valueByteRuns src v) hruns
    (fun _ h => ⟨_, brings_valueByteRuns hopen h⟩) fun _ => refuses_valueByteRuns).last ?_
  rw [Growing.add_add]
  exact brings_endElement hinner

/-- **A value is written as a whole**, with what is left of its byte runs. -/
theorem brings_value {src : Source} {v : Value} {shown : ValueShown} (hinner : g.outer ≠ [])
    (h : valueShown v = .ok shown) (hruns : Survives (valueRuns src v)) :
    Brings (Stands encoding g) (value src v) (shown.given ++ (valueRunsLeft src v).1) ()
      (Stands encoding (g.add [.element "value" shown.attributes
        (shown.texts ++ (valueRunsLeft src v).2)])) := by
  rw [value_eq]
  exact (brings_valueFront h).bind (brings_valueEnd hinner hruns)

/-- A value whose place cannot be told, for good, is left open. -/
theorem fails_value {src : Source} {v : Value} {shown : ValueShown} (h : valueShown v = .ok shown)
    (hruns : valueRuns src v = .error fault) (hr : fault.isRecoverable = false) :
    Fails (Stands encoding g) (value src v) (shown.given ++ []) fault
      (Stands encoding ((g.opened "value" shown.attributes).add shown.texts)) := by
  rw [value_eq]
  refine (brings_valueFront h).fails ?_
  exact ((refuses_valueByteRuns hruns).failed (bare_valueByteRuns src v) hr _ _).stop.fails

/-- A value that cannot be shown ends the report. -/
theorem ends_value {src : Source} {v : Value} (h : valueShown v = .error fault) :
    Ends (Stands encoding g) (value src v) fault := by
  unfold valueShown at h
  unfold value present
  rcases Failing.bind_eq_error.mp h with hpresented | ⟨⟨shape, p⟩, hpresented, h⟩
  · rw [hpresented]
    exact (refuses_ask fault id).stop.ends
  rw [hpresented]
  refine (brings_ask (shape, p) id).ends ?_
  dsimp only
  rcases Failing.bind_eq_error.mp h with htype | ⟨type, htype, h⟩
  · rw [htype]
    exact (refuses_ask fault id).stop.ends
  rw [htype]
  have hlegal : legal type = true := legal_of_printable (plain_valueType htype).1
  refine (brings_ask type id).ends ((brings_valueStart v hlegal _).ends ?_)
  rcases Failing.bind_eq_error.mp h with hpayload | ⟨payload, -, h⟩
  · exact (refuses_payload hpayload).stop.ends
  · cases h

end HiveDump.Report
