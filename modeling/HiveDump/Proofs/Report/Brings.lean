import HiveDump.Proofs.Report.Composed
import HiveDump.Proofs.Report.Printable

/-!
# What parts of a report bring about

Unless its policy raises something, `Brings` says all that a part does: from every writer that
satisfies `pre` it submits these faults, succeeds with this result and leaves a writer that satisfies
`post`; `Fails` does so of a part that fails. A part that fails before it writes anything leaves the
writer as it was (`Refuses`), so it can be given up; of a failing part often only its fault counts
(`Ends`).

The calls of a writer are told for documents in any encoding: `Stands` when trees are written, and
`Takes` when a start tag takes attributes.

Results:
* **`Brings.bind`**, `Brings.tried`, **`Refuses.survived`**: parts are put together;
* `brings_startElement`, `brings_writeAttribute`, `brings_base64`, `brings_element`: the calls.
-/

namespace HiveDump.Report

open HiveDump.Action Markup Markup.Tree

variable {α β : Type}

/-! ## What a part brings about -/

/-- Whether a part, from every writer that satisfies `pre`, submits these faults, succeeds with this
result and leaves a writer that satisfies `post`. -/
def Brings (pre : Writer → Prop) (act : Action Writer α) (given : List Policy.Submission) (a : α)
    (post : Writer → Prop) : Prop :=
  ∀ w, pre w → ∃ w', Does act w given (.ok a) w' ∧ post w'

/-- Whether a part fails with this fault and leaves every writer as it is. -/
def Refuses (act : Action Writer α) (fault : Fault) : Prop :=
  ∀ w, Does act w [] (.error fault) w

/-- Whether a part fails with this fault from every writer that satisfies `pre`. -/
def Ends (pre : Writer → Prop) (act : Action Writer α) (fault : Fault) : Prop :=
  ∀ w, pre w → ∃ given w', Does act w given (.error fault) w'

/-- Whether a part, from every writer that satisfies `pre`, submits these faults, fails with this
fault and leaves a writer that satisfies `post`. -/
def Fails (pre : Writer → Prop) (act : Action Writer α) (given : List Policy.Submission)
    (fault : Fault) (post : Writer → Prop) : Prop :=
  ∀ w, pre w → ∃ w', Does act w given (.error fault) w' ∧ post w'

variable {pre pre' mid post post' : Writer → Prop} {act : Action Writer α}
  {next : α → Action Writer β} {given more : List Policy.Submission} {a : α} {b : β} {fault : Fault}

theorem Brings.imp (h : Brings pre act given a post) (hpre : ∀ w, pre' w → pre w)
    (hpost : ∀ w, post w → post' w) : Brings pre' act given a post' := by
  intro w hw
  obtain ⟨w', hdoes, hw'⟩ := h w (hpre w hw)
  exact ⟨w', hdoes, hpost w' hw'⟩

theorem Brings.pure : Brings pre (pure a) [] a pre :=
  fun w hw => ⟨w, does_pure a, hw⟩

/-- **One part behind another.** -/
theorem Brings.bind (h : Brings pre act given a mid) (hnext : Brings mid (next a) more b post) :
    Brings pre (act >>= next) (given ++ more) b post := by
  intro w hw
  obtain ⟨w', hdoes, hmid⟩ := h w hw
  obtain ⟨w'', hbehind, hpost⟩ := hnext w' hmid
  exact ⟨w'', hdoes.bind hbehind, hpost⟩

/-- A part in front that submits nothing. -/
theorem Brings.first (h : Brings pre act [] a mid) (hnext : Brings mid (next a) more b post) :
    Brings pre (act >>= next) more b post :=
  h.bind hnext

/-- A part behind that submits nothing. -/
theorem Brings.last (h : Brings pre act given a mid) (hnext : Brings mid (next a) [] b post) :
    Brings pre (act >>= next) given b post := by
  have hboth := h.bind hnext
  rwa [List.append_nil] at hboth

theorem Brings.discard (h : Brings pre act given a post) :
    Brings pre (Functor.discard act) given () post := by
  rw [discard_eq]
  exact h.last .pure

/-- A part that succeeds is not given up. -/
theorem Brings.tried (hbare : Bare Inner act) (h : Brings pre act [] a post) (op : Operation)
    (target : Target) : Brings pre (attempt op target act) [] () post := by
  intro w hw
  obtain ⟨w', hdoes, hpost⟩ := h w hw
  exact ⟨w', hdoes.tried hbare op target, hpost⟩

/-- A call to the writer that succeeds. -/
theorem Brings.write {call : Writing α}
    (h : ∀ w, pre w → ∃ w', w.call call = (.ok a, w') ∧ post w') :
    Brings pre (Action.write call) [] a post := by
  intro w hw
  obtain ⟨w', hcall, hpost⟩ := h w hw
  have hdoes := does_write (w := w) call
  rw [hcall] at hdoes
  exact ⟨w', hdoes, hpost⟩

theorem brings_log (line : LogLine) : Brings pre (log line) [] () pre :=
  fun w hw => ⟨w, does_log line, hw⟩

theorem brings_ask (a : α) (wrap : Fault → Fault) : Brings pre (ask (.ok a) wrap) [] a pre :=
  .pure

/-! ## Parts that fail -/

theorem refuses_throw (fault : Fault) : Refuses (throw fault : Action Writer α) fault :=
  fun _ => does_throw fault

theorem refuses_ask (fault : Fault) (wrap : Fault → Fault) :
    Refuses (ask (.error fault) wrap : Action Writer α) (wrap fault) :=
  refuses_throw _

/-- Nothing follows a part that fails. -/
theorem Refuses.stop (h : Refuses act fault) : Refuses (act >>= next) fault :=
  fun w => (h w).stop

/-- **A part that is given up** leaves the writer as it is. -/
theorem Refuses.survived (hbare : Bare Inner act) (h : Refuses act fault)
    (hr : fault.isRecoverable = true) (op : Operation) (target : Target) :
    Brings pre (attempt op target act) [⟨fault, op, target⟩] () pre :=
  fun w hw => ⟨w, (h w).survived hbare hr op target, hw⟩

theorem Refuses.failed (hbare : Bare Inner act) (h : Refuses act fault)
    (hr : fault.isRecoverable = false) (op : Operation) (target : Target) :
    Refuses (attempt op target act) fault :=
  fun w => (h w).failed hbare hr op target

theorem Refuses.ends (h : Refuses act fault) : Ends pre act fault :=
  fun w _ => ⟨[], w, h w⟩

theorem Refuses.fails (h : Refuses act fault) : Fails pre act [] fault pre :=
  fun w hw => ⟨w, h w, hw⟩

theorem Fails.stop (h : Fails pre act given fault post) :
    Fails pre (act >>= next) given fault post := by
  intro w hw
  obtain ⟨w', hdoes, hpost⟩ := h w hw
  exact ⟨w', hdoes.stop, hpost⟩

/-- A part that fails for good behind one that succeeds. -/
theorem Brings.fails (h : Brings pre act given a mid) (hnext : Fails mid (next a) more fault post) :
    Fails pre (act >>= next) (given ++ more) fault post := by
  intro w hw
  obtain ⟨w', hdoes, hmid⟩ := h w hw
  obtain ⟨w'', hbehind, hpost⟩ := hnext w' hmid
  exact ⟨w'', hdoes.bind hbehind, hpost⟩

theorem Ends.stop (h : Ends pre act fault) : Ends pre (act >>= next) fault := by
  intro w hw
  obtain ⟨given, w', hdoes⟩ := h w hw
  exact ⟨given, w', hdoes.stop⟩

/-- A part behind one that succeeds. -/
theorem Brings.ends (h : Brings pre act given a mid) (hnext : Ends mid (next a) fault) :
    Ends pre (act >>= next) fault := by
  intro w hw
  obtain ⟨w', hdoes, hmid⟩ := h w hw
  obtain ⟨more, w'', hbehind⟩ := hnext w' hmid
  exact ⟨given ++ more, w'', hdoes.bind hbehind⟩

/-! ## Calls of the writer -/

/-- Whether the document so far, in an encoding, is these trees. -/
def Stands (encoding : String) (g : Growing) (w : Writer) : Prop :=
  w.At encoding (fun _ => True) g

/-- Whether the document so far is these trees and a start tag that takes attributes. -/
def Takes (encoding name : String) (attributes : List Attribute) (g : Growing) (w : Writer) :
    Prop :=
  w.AtTag encoding (fun _ => True) name attributes g

variable {encoding name n v : String} {attributes : List Attribute} {g : Growing} {ts : List Tree}

theorem Takes.stands {w : Writer} (h : Takes encoding name attributes g w) :
    Stands encoding (g.opened name attributes) w :=
  h.holds

theorem brings_startDocument {label : String} {cs : Charset} (h : Writer.Usable label cs) :
    Brings (· = { label := label }) (Action.write Writer.startDocument) [] () (Stands label {}) :=
  .write fun w hw => by
    subst hw
    exact Writer.At.startDocument h

theorem brings_startElement (hname : isName name = true) :
    Brings (Stands encoding g) (Action.write (Writer.startElement name)) [] ()
      (Takes encoding name [] g) :=
  .write fun _ hw => Writer.At.startElement hw hname trivial

/-- An attribute that the tag does not have yet. -/
theorem brings_writeAttribute (hname : isName n = true) (hvalue : legal v = true)
    (hnew : n ∉ attributes.map (·.name)) :
    Brings (Takes encoding name attributes g) (writeAttribute n v) [] ()
      (Takes encoding name (attributes ++ [⟨n, v⟩]) g) :=
  .write fun _ hw => Writer.AtTag.writeAttribute (a := ⟨n, v⟩) hw hname hvalue hnew trivial

/-- An attribute whose content is given as bytes. -/
theorem brings_base64 (hname : isName n = true) (hnew : n ∉ attributes.map (·.name)) (data : Bytes)
    (length : Int) :
    Brings (Takes encoding name attributes g)
      (do
        Action.write (Writer.startAttribute n)
        Action.write (Writer.writeBase64 data 0 (some length))
        Action.write Writer.endAttribute) [] ()
      (Takes encoding name (attributes ++ [⟨n, Base64.text (data.slice 0 length)⟩]) g) := by
  intro w hw
  have hvalue := legal_of_printable (printable_base64 (data.slice 0 length))
  obtain ⟨w', hcall, hw'⟩ := Writer.AtTag.writeAttribute
    (a := ⟨n, Base64.text (data.slice 0 length)⟩) hw hname hvalue hnew trivial
  have hend := Writer.call_endAttribute hw.holds.noAttribute
    ⟨n, [] ++ data.slice 0 (0 + length)⟩
  rw [Int.zero_add, List.nil_append, hcall] at hend
  have hstart := does_write (w := w) (Writer.startAttribute n)
  rw [Writer.AtTag.call_startAttribute hw n] at hstart
  have hfill := does_write (w := { w with openAttribute := some { name := n } })
    (Writer.writeBase64 data 0 (some length))
  rw [Writer.call_writeBase64, Option.elim_some, Int.zero_add, List.nil_append] at hfill
  have hlast := does_write (w := { w with openAttribute := some ⟨n, data.slice 0 length⟩ })
    Writer.endAttribute
  rw [hend] at hlast
  exact ⟨w', hstart.bind (hfill.bind hlast), hw'⟩

/-- The innermost element is finished. -/
theorem brings_endElement (hinner : g.outer ≠ []) :
    Brings (Stands encoding ((g.opened name attributes).add ts)) (Action.write Writer.endElement)
      [] () (Stands encoding (g.add [.element name attributes ts])) :=
  .write fun _ hw => Writer.At.endElement hw hinner trivial

/-- An element with its content. -/
theorem brings_element {content : Action Writer α} (hinner : g.outer ≠ [])
    (hname : isName name = true)
    (h : Brings (Takes encoding name [] g) content given a
      (Stands encoding ((g.opened name attributes).add ts))) :
    Brings (Stands encoding g) (element name content) given a
      (Stands encoding (g.add [.element name attributes ts])) :=
  (brings_startElement hname).first <| h.last <| (brings_endElement hinner).first .pure

end HiveDump.Report
