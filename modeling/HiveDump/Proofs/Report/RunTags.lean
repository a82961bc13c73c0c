import HiveDump.Proofs.Markup.Confined
import HiveDump.Proofs.Report.Shown
import HiveDump.Proofs.Report.Walked

/-!
# The byte runs that a report writes

Which byte runs stand in a document is settled where nodes are entered and values are shown: in
every encoding and on every device, under every policy, and wherever a report fails, every tag
`byte_run` among the tokens has offset and length of a run of a node or value that the walk has met.

Results:
* `placing_byteRun`: a run that is allowed; `placing_element`, `placing_safeAttribute`: parts
  without runs;
* **`placing_nodeStart`**, **`placing_value`**: nodes and values;
* **`placing_told`**, `placing_run`: any stretch of a walk, and all of it.
-/

namespace HiveDump.Report

open HiveDump.Action Markup Walk

/-- The attributes of a byte run. -/
def runAttributes (offset length : Int) : List Attribute :=
  [⟨"file_offset", toString offset⟩, ⟨"len", toString length⟩]

/-- Whether attributes are those of a run that is allowed. -/
def IsRun (allowed : Int → Int → Prop) (attributes : List Attribute) : Prop :=
  ∃ offset length, allowed offset length ∧ attributes = runAttributes offset length

/-- Whether only runs that are allowed were written, and none is being written. -/
def Places (allowed : Int → Int → Prop) (w : Writer) : Prop :=
  w.Confined "byte_run" (IsRun allowed)

/-- Whether a part of a report only writes runs that are allowed, whether it succeeds or not. -/
def Placing {α : Type} (allowed : Int → Int → Prop) (act : Action Writer α) : Prop :=
  Yields (Places allowed) act (fun _ => Places allowed) (Places allowed)

variable {α β : Type} {allowed : Int → Int → Prop} {act : Action Writer α}
  {next : α → Action Writer β}

/-! ## Parts that write no runs -/

theorem placing_pure (a : α) : Placing allowed (pure a) :=
  .pure fun _ h => h

theorem placing_throw (fault : Fault) : Placing allowed (throw fault : Action Writer α) :=
  .throw fun _ h => h

theorem placing_log (line : LogLine) : Placing allowed (log line) :=
  yields_log line

theorem placing_count (change : Tally → Tally) : Placing allowed (count change) :=
  yields_count change

theorem placing_ask (answer : Except Fault α) (wrap : Fault → Fault) :
    Placing allowed (ask answer wrap) :=
  (yields_ask answer wrap).imp_post fun _ _ h => h.2

theorem Placing.bind (h : Placing allowed act) (hnext : ∀ a, Placing allowed (next a)) :
    Placing allowed (act >>= next) :=
  Yields.bind h hnext

theorem Placing.discard (h : Placing allowed act) : Placing allowed (discard act) :=
  Yields.discard h fun _ _ hw => hw

theorem Placing.forM {f : β → Action Writer Unit} {bs : List β}
    (h : ∀ b ∈ bs, Placing allowed (f b)) : Placing allowed (bs.forM f) := by
  induction bs with
  | nil => exact .forM_nil fun _ hw => hw
  | cons b bs ih =>
    obtain ⟨hb, hbs⟩ := List.forall_mem_cons.mp h
    exact .forM_cons hb (ih hbs)

theorem Placing.recover (h : Placing allowed act) (op : Operation) (target : Target)
    (goOn : Option Int → α) : Placing allowed (recover op target goOn act) :=
  (Yields.recover h).imp_post fun _ _ hw => hw.elim id And.right

theorem Placing.attempt (h : Placing allowed act) (op : Operation) (target : Target) :
    Placing allowed (attempt op target act) :=
  h.discard.recover op target _

theorem placing_submit (fault : Fault) (op : Operation) (target : Target) :
    Placing allowed (submit fault op target) :=
  yields_submit fault op target

theorem placing_write {call : Writing α}
    (h : ∀ w, Places allowed w → Places allowed (w.call call).2) :
    Placing allowed (Action.write call) :=
  .leaving h

theorem placing_startElement {name : String} (hname : name ≠ "byte_run") :
    Placing allowed (Action.write (Writer.startElement name)) :=
  placing_write fun _ h => h.startElement hname

theorem placing_endElement : Placing allowed (Action.write Writer.endElement) :=
  placing_write fun _ h => h.endElement

theorem placing_element {name : String} (hname : name ≠ "byte_run") (h : Placing allowed act) :
    Placing allowed (element name act) :=
  (placing_startElement hname).bind fun _ => h.bind fun a => placing_endElement.bind fun _ =>
    placing_pure a

theorem placing_writeAttribute (name value : String) :
    Placing allowed (writeAttribute name value) :=
  placing_write fun _ h => h.writeAttribute name value

/-- An attribute whose content is given as bytes. -/
theorem placing_base64 (name : String) (data : Bytes) (length : Option Int) :
    Placing allowed (do
      Action.write (Writer.startAttribute name)
      Action.write (Writer.writeBase64 data 0 length)
      Action.write Writer.endAttribute) := by
  have hstart : Yields (Places allowed) (Action.write (Writer.startAttribute name))
      (fun _ w => w.Spelling "byte_run" (IsRun allowed)) (Places allowed) :=
    .call fun w hw => (hw.startAttribute name).imp_left fun ⟨w', hcall, hw'⟩ => ⟨(), w', hcall, hw'⟩
  have hfill : Yields (fun w => w.Spelling "byte_run" (IsRun allowed))
      (Action.write (Writer.writeBase64 data 0 length))
      (fun _ w => w.Spelling "byte_run" (IsRun allowed)) (Places allowed) :=
    .write fun w hw => by
      obtain ⟨w', hcall, hw'⟩ := hw.writeBase64 data 0 length
      exact ⟨(), w', hcall, hw'⟩
  exact hstart.bind fun _ => hfill.bind fun _ => .leaving fun w hw => hw.endAttribute

theorem placing_base64Attribute (name encodingName : String) (data : Bytes) :
    Placing allowed (base64Attribute name encodingName data) :=
  (placing_writeAttribute _ _).bind fun _ => placing_base64 name data _

theorem placing_safeAttribute (name encodingName : Option String) (data : Option AttributeData) :
    Placing allowed (safeAttribute name encodingName data) := by
  unfold safeAttribute
  split
  · exact placing_throw _
  next name encodingName data =>
    have hplain : Placing allowed (do
        Action.write (Writer.writeAttribute name (← plainText data))
        return AttributeEncoding.plain) := by
      rw [plainText_eq]
      exact (placing_ask _ _).bind fun _ => (placing_writeAttribute _ _).bind fun _ =>
        placing_pure _
    have hencoded : Placing allowed (do
        base64Attribute name encodingName data.terminated
        return AttributeEncoding.base64) :=
      (placing_base64Attribute _ _ _).bind fun _ => placing_pure _
    obtain ⟨_ | _, _ | line⟩ := recommend data
    · exact hplain
    · exact (placing_log line).bind fun _ => hplain
    · exact hencoded
    · exact (placing_log line).bind fun _ => hencoded
  · exact placing_throw _

theorem placing_nameAttribute (op : Operation) (target : Target) (attributeName : String)
    (name : Option String) (stored : Bytes) :
    Placing allowed (nameAttribute op target attributeName name stored) := by
  unfold nameAttribute
  dsimp only
  split
  · exact placing_base64Attribute _ _ _
  · exact (placing_safeAttribute _ _ _).attempt _ _

theorem placing_timeElement (ticks : Option Int) : Placing allowed (timeElement ticks) := by
  unfold timeElement
  split
  · exact placing_pure false
  · exact (placing_element (by decide) (placing_write fun _ h => h.writeText _)).bind fun _ =>
      placing_pure true

/-! ## Runs -/

/-- **A run that is allowed.** -/
theorem placing_byteRun {offset length : Int} (h : allowed offset length) :
    Placing allowed (byteRun offset length) := by
  have hstart : Yields (Places allowed) (Action.write (Writer.startElement "byte_run"))
      (fun _ w => w.Filling "byte_run" (IsRun allowed) []) (Places allowed) :=
    .call fun w hw => hw.startFilling.imp_left fun ⟨w', hcall, hw'⟩ => ⟨(), w', hcall, hw'⟩
  have hattribute {attributes : List Attribute} {a : Attribute}
      (hnew : a.name ∉ attributes.map (·.name)) :
      Yields (fun w => w.Filling "byte_run" (IsRun allowed) attributes)
        (writeAttribute a.name a.value)
        (fun _ w => w.Filling "byte_run" (IsRun allowed) (attributes ++ [a])) (Places allowed) :=
    .write fun w hw => by
      obtain ⟨w', hcall, hw'⟩ := hw.writeAttribute hnew
      exact ⟨(), w', hcall, hw'⟩
  have hend : Yields
      (fun w => w.Filling "byte_run" (IsRun allowed) (runAttributes offset length))
      (Action.write Writer.endElement) (fun _ => Places allowed) (Places allowed) :=
    .leaving fun w hw => hw.endElement ⟨offset, length, h, rfl⟩
  have hcontent : Yields (fun w => w.Filling "byte_run" (IsRun allowed) [])
      (do
        writeAttribute "file_offset" (toString offset)
        writeAttribute "len" (toString length))
      (fun _ w => w.Filling "byte_run" (IsRun allowed) (runAttributes offset length))
      (Places allowed) :=
    (hattribute (a := ⟨"file_offset", toString offset⟩) (by simp)).bind fun _ =>
      hattribute (a := ⟨"len", toString length⟩) (by simp)
  exact hstart.bind fun _ => hcontent.bind fun _ => hend.bind fun _ => placing_pure ()

/-- Whether all runs that an operation shows are allowed. -/
def Allows (allowed : Int → Int → Prop) (runs : Except Fault (List (Int × Int))) : Prop :=
  ∀ shown, runs = .ok shown → ∀ run ∈ shown, allowed run.1 run.2

variable {src : Source} {n : Node} {v : Value}

theorem placing_nodeByteRuns (h : Allows allowed (nodeRuns src n)) :
    Placing allowed (nodeByteRuns src n) := by
  refine Yields.bind (yields_ask _ _) fun length => .of_and fun hlength => ?_
  unfold nodeRuns at h
  rw [hlength] at h
  exact placing_element (by decide) (placing_byteRun (h _ rfl _ (List.mem_singleton.mpr rfl)))

theorem placing_valueByteRuns (h : Allows allowed (valueRuns src v)) :
    Placing allowed (valueByteRuns src v) := by
  refine Yields.bind (yields_ask _ _) fun length => .of_and fun hlength => ?_
  refine Yields.bind (yields_ask _ _) fun cell => .of_and fun hcell => ?_
  unfold valueRuns at h
  rw [hlength] at h
  dsimp only at h
  rw [hcell] at h
  obtain ⟨hrecord, hpayload⟩ := List.forall_mem_cons.mp (h _ rfl)
  refine placing_element (by decide) ((placing_byteRun hrecord).bind fun _ => ?_)
  by_cases hcut : inlineLimit < cell.2
  · rw [if_pos hcut, List.forall_mem_singleton] at hpayload
    rw [if_pos hcut]
    exact (placing_byteRun hpayload).bind fun _ => placing_pure 2
  · rw [if_neg hcut]
    exact placing_pure 1

/-! ## Nodes and values -/

/-- **A node is entered.** -/
theorem placing_nodeStart (h : Allows allowed (nodeRuns src n)) :
    Placing allowed (nodeStart src n) := by
  have hplace (ticks : Option Int) : Placing allowed (nodePlace src n ticks) :=
    (placing_timeElement ticks).discard.bind fun _ => (placing_nodeByteRuns h).attempt _ _
  rw [nodeStart_eq]
  refine Placing.bind ?_ fun _ => ((placing_ask _ _).recover _ _ _).bind hplace
  refine (placing_startElement (by decide)).bind fun _ => ?_
  refine (placing_nameAttribute _ _ _ _ _).bind fun _ => ?_
  split
  · exact placing_writeAttribute _ _
  · exact placing_pure ()

theorem placing_valueStart (v : Value) (type : String) (encoding : Option AttributeEncoding) :
    Placing allowed (valueStart v type encoding) := by
  have hkey : Placing allowed (if v.isDefault then writeAttribute "default" "1"
      else nameAttribute "start_value" (.value v) "key" v.key v.storedKey) := by
    split
    · exact placing_writeAttribute _ _
    · exact placing_nameAttribute _ _ _ _ _
  refine (placing_startElement (by decide)).bind fun _ => ?_
  refine (placing_writeAttribute _ _).bind fun _ => ?_
  cases encoding with
  | none => exact hkey
  | some e => exact (placing_writeAttribute _ _).bind fun _ => hkey

theorem placing_numberAttribute (bits : Nat) (p : Payload) :
    Placing allowed (numberAttribute bits p) := by
  unfold numberAttribute
  split
  · exact placing_writeAttribute _ _
  · exact placing_throw _

theorem placing_textElements (v : Value) (entries : List (Option String)) :
    Placing allowed (textElements v entries) :=
  .forM fun _ _ => placing_element (by decide) ((placing_safeAttribute _ _ _).attempt _ _)

theorem placing_payload (shape : Shape) (v : Value) (p : Payload) :
    Placing allowed (payload shape v p) := by
  cases shape with
  | string => exact (placing_safeAttribute _ _ _).attempt _ _
  | strings => exact placing_textElements v _
  | dword => exact placing_numberAttribute 32 p
  | qword => exact placing_numberAttribute 64 p
  | badString | binary => exact placing_base64 _ _ _
  | none | other =>
    unfold payload
    dsimp only
    split
    · exact placing_base64 _ _ _
    · exact placing_pure ()

/-- **A value is shown.** -/
theorem placing_value (h : Allows allowed (valueRuns src v)) : Placing allowed (value src v) := by
  refine (placing_ask _ _).bind fun presented => (placing_ask _ _).bind fun type => ?_
  refine (placing_valueStart v type _).bind fun _ => (placing_payload _ v _).bind fun _ => ?_
  exact ((placing_valueByteRuns h).attempt _ _).bind fun _ => placing_endElement

/-! ## Walks -/

/-- The byte runs that are shown for an event. -/
def runsOf (src : Source) : Event → Except Fault (List (Int × Int))
  | .enter n => nodeRuns src n
  | .value _ v => valueRuns src v
  | _ => .ok []

theorem placing_step (skipping : Bool) {ev : Event} (h : Allows allowed (runsOf src ev)) :
    Placing allowed (step skipping (visitor src) ev) := by
  cases ev with
  | note line => exact placing_log line
  | enter n => exact (placing_count _).bind fun _ => placing_nodeStart h
  | value n v => exact (placing_count _).bind fun _ => placing_value h
  | leave n => exact placing_endElement
  | malformed fault list n =>
    rw [step]
    split
    · exact (placing_count _).bind fun _ => placing_submit _ _ _
    · exact placing_throw _
  | failed fault => exact placing_throw fault

/-- **Any stretch of a walk.** -/
theorem placing_told (skipping : Bool) {evs : List Event}
    (h : ∀ ev ∈ evs, Allows allowed (runsOf src ev)) : Placing allowed (told src skipping evs) :=
  .forM fun ev hev => placing_step skipping (h ev hev)

theorem placing_run (skipping : Bool) (h : ∀ ev ∈ events src, Allows allowed (runsOf src ev)) :
    Placing allowed (run src skipping (visitor src)) :=
  (placing_told skipping h).bind fun _ => yields_get.bind fun _ => (yields_log _).bind fun _ =>
    placing_pure _

end HiveDump.Report
