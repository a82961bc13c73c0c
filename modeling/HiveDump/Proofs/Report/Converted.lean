import HiveDump.Proofs.Conversion.Steps
import HiveDump.Proofs.Report.Depth
import HiveDump.Proofs.Report.Walked

/-!
# The document of a conversion

A conversion starts a document in UTF-8, writes its root while it walks the hive, closes the hive
and finishes the document. Once all of the root's content is written nothing can fail but closing
the hive. A conversion that fails leaves the document where it was.

Results:
* `yields_prologue`, `yields_body`: everything up to the end of the outermost node;
* `yields_finish`: the end of the document;
* **`convert_leaves`**: a conversion writes its document as a whole, or fails and leaves it cut off.
-/

namespace HiveDump.Conversion

open Markup Markup.Tree Report

/-! ## Start and end of the document -/

/-- The writer of a document that is not started. -/
def blank : Writer := { label := "utf-8" }

/-- The root, open. -/
def opened : Growing :=
  Growing.opened {} rootName []

theorem rooted_opened : opened.Rooted rootName [] :=
  ⟨[], rfl⟩

theorem ofLabel?_utf8 : Charset.ofLabel? "utf-8" = some .utf8 := by decide +kernel

variable {fail : Writer → Prop}

theorem yields_startDocument :
    Yields (· = blank) (Action.write Writer.startDocument) (fun _ => Page {}) fail :=
  .write fun w hw => by
    subst hw
    refine ⟨(), { blank with stage := .writing, tokens := #[.declaration "utf-8"] }, ?_,
      rfl, rfl, rfl, rfl, rfl, rfl, rfl, ?_, ?_⟩
    · have hlegal : legal "utf-8" = true := by decide
      have hmarkup : Charset.writesMarkup .utf8 = true := by decide
      simp [Writer.startDocument, Writer.call_bind, blank, ofLabel?_utf8, hlegal, hmarkup,
        Writer.emit]
    · simp [Growing.tokens, Growing.outerTokens, forestTokens]
    · simp [Growing.tokens, Growing.outerTokens, forestTokens]

/-- The root is open behind the time of the hive, if it has one. -/
theorem yields_prologue (src : Source) :
    Yields (· = blank) (prologue src) (fun _ => Adds opened (AtMostOne IsTime)) Cut := by
  refine yields_startDocument.bind fun _ => ?_
  have hroot : Yields (Page {}) (Action.write (Writer.startElement rootName))
      (fun _ => Page opened) Cut :=
    (yields_startElement (by decide)).imp_post fun _ _ => page_of_tagged
  refine hroot.bind fun _ => ?_
  have hmodified : Yields (Page opened) (ask src.lastModified id) (fun _ => Page opened) Cut :=
    (yields_ask _ _).imp (fun _ h => h) (fun _ _ h => h.2) fun _ => cut_of_page rooted_opened
  refine hmodified.bind fun ticks => ?_
  have hinner : opened.outer ≠ [] := outer_ne_nil_of_rooted rooted_opened
  exact (yields_timeElement hinner ticks).discard fun _ _ h => h

/-- Everything up to the end of the outermost node. -/
theorem yields_body (src : Source) (skipping : Bool) :
    Yields (· = blank) (body src skipping)
      (fun _ => Adds opened fun ts => IsHive (.element rootName [] ts)) Cut := by
  rw [body_eq]
  refine (yields_prologue src).bind fun _ => .of_exists fun time => .of_and fun htime => ?_
  refine (yields_run src skipping (rooted_opened.add time)).imp_post ?_
  rintro _ w ⟨_, ⟨node, rfl, hnode⟩, hpage⟩
  rw [Growing.add_add] at hpage
  exact ⟨_, ⟨time, node, rfl, htime, hnode⟩, hpage⟩

/-- Whether a writer has written these tokens, in UTF-8. -/
structure Wrote (ts : List Token) (w : Writer) : Prop where
  label : w.label = "utf-8"
  tokens : w.tokens.toList = ts

/-- Whether a writer has written the document of a well formed element. -/
def Printed (root : Tree) (w : Writer) : Prop :=
  (∀ t ∈ root.tokens, t.WellFormed) ∧ Wrote root.document w

/-- Whether a writer has closed the root of a document, and not finished the document. -/
structure Ended (root : Tree) (w : Writer) : Prop where
  printed : Printed root w
  device : w.device = .working
  stage : w.stage = .writing
  openElements : w.openElements = []
  pending : w.pending = none
  rootClosed : w.rootClosed = true

theorem yields_endRoot {ts : List Tree} :
    Yields (Page (opened.add ts)) (Action.write Writer.endElement)
      (fun _ => Ended (.element rootName [] ts)) fail :=
  .write fun w hpage => by
    obtain ⟨w', hcall, hdone⟩ := Writer.At.endRoot hpage
    exact ⟨(), w', hcall, ⟨⟨hdone.wellFormed, hdone.label, hdone.tokens⟩, hdone.device, hdone.stage,
      hdone.openElements, hdone.pending, hdone.rootClosed⟩⟩

theorem yields_endDocument {root : Tree} :
    Yields (Ended root) (Action.write Writer.endDocument) (fun _ => Printed root) fail :=
  .write fun w h => by
    have hdone : w.Done "utf-8" root := ⟨h.printed.2.label, h.device, h.stage, h.openElements,
      h.pending, h.rootClosed, h.printed.2.tokens, h.printed.1⟩
    exact ⟨(), _, hdone.call_endDocument, h.printed.1, h.printed.2.label, h.printed.2.tokens⟩

/-- **Nothing fails at the end of a document.** -/
theorem yields_finish {ts : List Tree} :
    Yields (Page (opened.add ts)) finish (fun _ => Printed (.element rootName [] ts)) fail :=
  yields_endRoot.bind fun _ => yields_endDocument.bind fun _ => yields_log _

/-! ## A whole conversion -/

/-- Tokens that are a report up to some point inside its root. -/
structure Part (g : Growing) (ts more : List Token) : Prop where
  rooted : g.Rooted rootName []
  tokens : ts ++ more = .declaration "utf-8" :: g.tokens
  wellFormed : ∀ t ∈ g.tokens, t.WellFormed
  plain : ∀ t ∈ g.tokens, PlainToken t

/-- Whether a writer has written a part of a report. -/
def Broken (w : Writer) : Prop :=
  ∃ g ts more, Part g ts more ∧ Wrote ts w

theorem broken_of_cut {w : Writer} (h : Cut w) : Broken w := by
  obtain ⟨g, hroot, hpage⟩ := h
  exact ⟨g, _, _, ⟨hroot, hpage.tokens, hpage.wellFormed, hpage.all⟩, hpage.label, rfl⟩

/-- Whether a conversion wrote its document, or failed inside it. -/
def Leaves (result : Except Fault Tally) (w : Writer) : Prop :=
  (∃ tally root, result = .ok tally ∧ IsHive root ∧ Printed root w) ∨
    ∃ fault, result = .error fault ∧ Broken w

theorem completion_leaves (tally : Tally) {ts : List Tree} {c : Conversion}
    (hhive : IsHive (.element rootName [] ts)) (hpage : Page (opened.add ts) c.session.output) :
    Leaves (after (completion tally) c).1 (after (completion tally) c).2.session.output := by
  have hfinish : Yields (Page (opened.add ts)) finish
      (fun _ => Printed (.element rootName [] ts)) fun _ => False := yields_finish
  rcases hfinish c.session hpage with ⟨_, s, hs, hprinted⟩ | ⟨_, _, _, hfalse⟩
  · have hafter : ∃ c', after (completion tally) c = (.ok tally, c') ∧
        c'.session.output = s.output := by
      simp only [completion, after_bind, after_report, hs]
      exact ⟨_, rfl, rfl⟩
    obtain ⟨c', hafter, houtput⟩ := hafter
    rw [hafter, houtput]
    exact .inl ⟨tally, _, rfl, hhive, hprinted⟩
  · exact hfalse.elim

/-- **A conversion writes its document as a whole**, or fails and leaves it cut off. -/
theorem convert_leaves (src : Source) (skipping : Bool) {start : Conversion}
    (hstart : start.session.output = blank) :
    Leaves (after (convert src skipping) start).1
      (after (convert src skipping) start).2.session.output := by
  rcases yields_body src skipping start.session hstart with hbody | hbody
  · obtain ⟨tally, s, hs, ts, hhive, hpage⟩ := hbody
    rw [convert_of_ok hs, after_bind, after_close]
    cases src.close with
    | error fault => exact .inr ⟨fault, rfl, broken_of_cut ⟨_, rooted_opened.add ts, hpage⟩⟩
    | ok _ => exact completion_leaves tally hhive hpage
  · obtain ⟨fault, s, hs, hcut⟩ := hbody
    obtain ⟨raised, c', hgiveUp, -, houtput, -⟩ := giveUp_spec src fault { start with session := s }
    rw [convert_of_error hs, hgiveUp, houtput]
    exact .inr ⟨raised, rfl, broken_of_cut hcut⟩

end HiveDump.Conversion
