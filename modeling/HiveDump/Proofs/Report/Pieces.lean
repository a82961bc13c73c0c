import HiveDump.Proofs.Markup.WriterCalls
import HiveDump.Proofs.Report.Printable
import HiveDump.Proofs.Report.Yields
import HiveDump.Report.Grammar

/-!
# Pieces of a report

What the parts of a report add to the document: attributes to the start tag that takes them, and
trees to the innermost open element. Everything they write is printable (`PlainToken`), and no end
tag is that of the document's root.

Results:
* `yields_safeAttribute`, `yields_nameAttribute`: attributes that show names and texts;
* `yields_timeElement`, **`yields_nodeByteRuns`**, **`yields_valueByteRuns`**: elements, which are
  written as a whole or not at all.
-/

namespace HiveDump.Report

open Markup Markup.Tree

/-! ## The state of the document -/

/-- The name of the root element. -/
def rootName : String := "hive"

/-- What a report writes in front of its last end tag. -/
def PlainToken : Token → Prop
  | .declaration _ => False
  | .startTag name attributes =>
    Printable name ∧ ∀ a ∈ attributes, Printable a.name ∧ Printable a.value
  | .text content => Printable content
  | .endTag name => Printable name ∧ name ≠ rootName

/-- Whether a text is a name that a report may use. -/
def PlainName (s : String) : Prop :=
  isName s = true ∧ Printable s

instance (s : String) : Decidable (PlainName s) := by
  unfold PlainName
  infer_instance

/-- Whether the document so far is these trees. -/
def Page (g : Growing) (w : Writer) : Prop :=
  w.At "utf-8" PlainToken g

/-- Whether the document so far is these trees and a start tag with certain attributes. -/
def Tagged (name : String) (carries : List Attribute → Prop) (g : Growing) (w : Writer) : Prop :=
  ∃ attributes, carries attributes ∧ w.AtTag "utf-8" PlainToken name attributes g

/-- Attributes whose names are among these, and some of which are known. -/
structure Carries (used : List String) (known : List Attribute) (attributes : List Attribute) :
    Prop where
  names : ∀ a ∈ attributes, a.name ∈ used
  has : ∀ a ∈ known, a ∈ attributes

variable {g : Growing} {name : String} {used : List String} {known : List Attribute}
  {fail : Writer → Prop}

theorem Carries.mono {used' : List String} {known' attributes : List Attribute}
    (h : Carries used known attributes) (hused : used ⊆ used') (hknown : known' ⊆ known) :
    Carries used' known' attributes :=
  ⟨fun a ha => hused (h.names a ha), fun a ha => h.has a (hknown ha)⟩

theorem Carries.add {attributes : List Attribute} (h : Carries used known attributes)
    (a : Attribute) : Carries (a.name :: used) (a :: known) (attributes ++ [a]) := by
  refine ⟨fun b hb => ?_, fun b hb => ?_⟩
  · rcases List.mem_append.mp hb with hb | hb
    · exact List.mem_cons_of_mem _ (h.names b hb)
    · rw [List.mem_singleton.mp hb]
      exact List.mem_cons_self
  · rcases List.mem_cons.mp hb with rfl | hb
    · exact List.mem_append_right _ (List.mem_singleton.mpr rfl)
    · exact List.mem_append_left _ (h.has b hb)

theorem Tagged.mono {carries carries' : List Attribute → Prop} {w : Writer}
    (h : Tagged name carries g w) (himp : ∀ attributes, carries attributes → carries' attributes) :
    Tagged name carries' g w := by
  obtain ⟨attributes, hc, ht⟩ := h
  exact ⟨attributes, himp _ hc, ht⟩

theorem Tagged.of_nil {w : Writer} (h : Tagged name (· = []) g w) :
    Tagged name (Carries [] []) g w :=
  h.mono fun attributes hnil => by
    subst hnil
    exact ⟨by simp, by simp⟩

theorem Tagged.forget {a : Attribute} {w : Writer}
    (h : Tagged name (Carries used (a :: known)) g w) : Tagged name (Carries used known) g w :=
  h.mono fun _ hc => hc.mono (fun _ hm => hm) fun _ hm => List.mem_cons_of_mem _ hm

theorem Tagged.widen {used' : List String} {w : Writer} (h : Tagged name (Carries used known) g w)
    (hused : used ⊆ used') : Tagged name (Carries used' known) g w :=
  h.mono fun _ hc => hc.mono hused fun _ hm => hm

/-- A start tag is a part of the document like others. -/
theorem Tagged.page {carries : List Attribute → Prop} {w : Writer} (h : Tagged name carries g w) :
    ∃ attributes, carries attributes ∧ Page (g.opened name attributes) w := by
  obtain ⟨attributes, hc, ht⟩ := h
  exact ⟨attributes, hc, ht.holds⟩

/-- What follows a start tag, with whichever attributes it has. -/
theorem Yields.of_tagged {α : Type} {carries : List Attribute → Prop} {act : Action Writer α}
    {post : α → Writer → Prop}
    (h : ∀ attributes, carries attributes →
      Yields (Page (g.opened name attributes)) act post fail) :
    Yields (Tagged name carries g) act post fail :=
  (Yields.of_exists fun attributes => .of_and (h attributes)).imp_pre fun _ hw => hw.page

/-! ## Single calls -/

theorem yields_startElement (hname : PlainName name) :
    Yields (Page g) (Action.write (Writer.startElement name))
      (fun _ => Tagged name (· = []) g) fail :=
  .write fun w hw => by
    obtain ⟨w', hcall, ht⟩ := Writer.At.startElement hw hname.1 ⟨hname.2, by simp⟩
    exact ⟨(), w', hcall, [], rfl, ht⟩

theorem plain_startTag {w : Writer} {attributes : List Attribute}
    (h : w.AtTag "utf-8" PlainToken name attributes g) :
    PlainToken (.startTag name attributes) := by
  have hall := h.holds.all
  rw [Growing.tokens_opened, List.forall_mem_append, List.forall_mem_singleton] at hall
  exact hall.2

theorem writeAttribute_tagged {w : Writer} {attributes : List Attribute} {a : Attribute}
    (ht : w.AtTag "utf-8" PlainToken name attributes g) (hname : PlainName a.name)
    (hvalue : Printable a.value) (hnew : a.name ∉ attributes.map (·.name)) :
    ∃ w', w.call (Writer.writeAttribute a.name a.value) = (.ok (), w') ∧
      w'.AtTag "utf-8" PlainToken name (attributes ++ [a]) g := by
  have hplain := plain_startTag ht
  have hplain' : PlainToken (.startTag name (attributes ++ [a])) := by
    refine ⟨hplain.1, ?_⟩
    rw [List.forall_mem_append, List.forall_mem_singleton]
    exact ⟨hplain.2, hname.2, hvalue⟩
  exact ht.writeAttribute hname.1 (legal_of_printable hvalue) hnew hplain'

/-- An attribute that the tag does not have yet. -/
theorem yields_newAttribute {carries carries' : List Attribute → Prop} {n v : String}
    (hname : PlainName n) (hvalue : Printable v)
    (hnew : ∀ attributes, carries attributes → n ∉ attributes.map (·.name))
    (hadd : ∀ attributes, carries attributes → carries' (attributes ++ [⟨n, v⟩])) :
    Yields (Tagged name carries g) (writeAttribute n v) (fun _ => Tagged name carries' g) fail :=
  .write fun w hw => by
    obtain ⟨attributes, hc, ht⟩ := hw
    obtain ⟨w', hcall, ht'⟩ := writeAttribute_tagged (a := ⟨n, v⟩) ht hname hvalue (hnew _ hc)
    exact ⟨(), w', hcall, _, hadd _ hc, ht'⟩

theorem Carries.new {attributes : List Attribute} {n : String} (h : Carries used known attributes)
    (hnew : n ∉ used) : n ∉ attributes.map (·.name) := by
  intro hm
  obtain ⟨b, hb, heq⟩ := List.mem_map.mp hm
  exact hnew (heq ▸ h.names b hb)

theorem yields_writeAttribute {n v : String} (hname : PlainName n) (hvalue : Printable v)
    (hnew : n ∉ used) :
    Yields (Tagged name (Carries used known) g) (writeAttribute n v)
      (fun _ => Tagged name (Carries (n :: used) (⟨n, v⟩ :: known)) g) fail :=
  yields_newAttribute hname hvalue (fun _ hc => hc.new hnew) fun _ hc => hc.add ⟨n, v⟩

/-- Whether the start tag waits for the content of an attribute, which so far is `content`. -/
def Filling (name : String) (carries : List Attribute → Prop) (g : Growing) (a : PendingAttribute)
    (w : Writer) : Prop :=
  ∃ w₀, Tagged name carries g w₀ ∧ w = { w₀ with openAttribute := some a }

/-- An attribute whose content is given as bytes. -/
theorem yields_base64 {n : String} (hname : PlainName n) (hnew : n ∉ used) (data : Bytes)
    (length : Int) :
    Yields (Tagged name (Carries used known) g)
      (do
        Action.write (Writer.startAttribute n)
        Action.write (Writer.writeBase64 data 0 (some length))
        Action.write Writer.endAttribute)
      (fun _ => Tagged name (Carries (n :: used) known) g) fail := by
  have hstart : Yields (Tagged name (Carries used known) g) (Action.write (Writer.startAttribute n))
      (fun _ => Filling name (Carries used known) g { name := n }) fail :=
    .write fun w ⟨attributes, hc, ht⟩ =>
      ⟨(), _, ht.call_startAttribute n, w, ⟨attributes, hc, ht⟩, rfl⟩
  have hfill : Yields (Filling name (Carries used known) g { name := n })
      (Action.write (Writer.writeBase64 data 0 (some length)))
      (fun _ => Filling name (Carries used known) g
        { name := n, content := [] ++ data.slice 0 (0 + length) }) fail :=
    .write fun w ⟨w₀, ht, hw⟩ =>
      ⟨(), _, hw ▸ Writer.call_writeBase64 w₀ _ data 0 (some length), w₀, ht, rfl⟩
  refine hstart.bind fun _ => hfill.bind fun _ => .write fun w ⟨w₀, ht, hw⟩ => ?_
  obtain ⟨attributes, hc, ht⟩ := ht
  obtain ⟨w', hcall, ht'⟩ := writeAttribute_tagged
    (a := ⟨n, Base64.text ([] ++ data.slice 0 (0 + length))⟩) ht hname (printable_base64 _)
    (hc.new hnew)
  refine ⟨(), w', ?_, Tagged.forget ⟨_, hc.add ⟨n, _⟩, ht'⟩⟩
  rw [hw, Writer.call_endAttribute ht.holds.noAttribute]
  exact hcall

/-! ## Names and texts -/

section Attributes

variable {n encodingName : String}

theorem yields_base64Attribute (hn : PlainName n) (he : PlainName encodingName)
    (hne : n ≠ encodingName) (hnew : n ∉ used) (henew : encodingName ∉ used) (data : Bytes) :
    Yields (Tagged name (Carries used known) g) (base64Attribute n encodingName data)
      (fun _ => Tagged name (Carries (n :: encodingName :: used) known) g) fail := by
  have hmark : Printable AttributeEncoding.base64.name := by decide
  have hnew' : n ∉ encodingName :: used := by
    rw [List.mem_cons, not_or]
    exact ⟨hne, hnew⟩
  exact (yields_writeAttribute he hmark henew).bind fun _ =>
    (yields_base64 hn hnew' data _).imp_post fun _ _ h => h.forget

theorem yields_plainText {d : AttributeData} (h : (recommend d).1 = .plain)
    {pre : Writer → Prop} :
    Yields pre (plainText d) (fun text w => Printable text ∧ pre w) pre := by
  intro s hs
  rcases hp : (plainText d).perform s with ⟨fault | text, t⟩
  · refine .inr ⟨fault, t, rfl, ?_⟩
    cases d with
    | text full => cases hp
    | bytes b =>
      simp only [plainText] at hp
      split at hp
      · cases hp
      · cases hp
        exact hs
  · obtain ⟨hprintable, rfl⟩ := printable_plainText h hp
    exact .inl ⟨text, _, rfl, hprintable, hs⟩

/-- A text is shown as it is or in base64, or nothing is written. -/
theorem yields_safeAttribute (hn : PlainName n) (he : PlainName encodingName)
    (hne : n ≠ encodingName) (hnew : n ∉ used) (henew : encodingName ∉ used)
    (data : Option AttributeData) :
    Yields (Tagged name (Carries used known) g) (safeAttribute (some n) (some encodingName) data)
      (fun _ => Tagged name (Carries (n :: encodingName :: used) known) g)
      (Tagged name (Carries used known) g) := by
  cases data with
  | none => exact .throw fun w h => h
  | some d =>
    have hplain (hr : (recommend d).1 = .plain) :
        Yields (Tagged name (Carries used known) g) (do
          Action.write (Writer.writeAttribute n (← plainText d))
          return AttributeEncoding.plain)
        (fun _ => Tagged name (Carries (n :: encodingName :: used) known) g)
        (Tagged name (Carries used known) g) := by
      refine (yields_plainText hr).bind fun text => .of_and fun hprintable => ?_
      exact (yields_writeAttribute hn hprintable hnew).bind fun _ => .pure fun w h =>
        h.forget.widen (List.cons_subset_cons n fun _ hm => List.mem_cons_of_mem _ hm)
    have hencoded : Yields (Tagged name (Carries used known) g) (do
          base64Attribute n encodingName d.terminated
          return AttributeEncoding.base64)
        (fun _ => Tagged name (Carries (n :: encodingName :: used) known) g)
        (Tagged name (Carries used known) g) :=
      (yields_base64Attribute hn he hne hnew henew _).bind fun _ => .pure fun _ h => h
    unfold safeAttribute
    rcases hr : recommend d with ⟨encoding, line⟩
    rw [hr] at hplain
    simp only [hr]
    cases line with
    | none =>
      cases encoding with
      | plain => exact hplain rfl
      | base64 => exact hencoded
    | some line =>
      refine (yields_log line).bind fun _ => ?_
      cases encoding with
      | plain => exact hplain rfl
      | base64 => exact hencoded

/-- What shows a name, or nothing. -/
theorem yields_attempt_safeAttribute (op : Operation) (target : Target) (hn : PlainName n)
    (he : PlainName encodingName) (hne : n ≠ encodingName) (hnew : n ∉ used)
    (henew : encodingName ∉ used) (data : Option AttributeData) :
    Yields (Tagged name (Carries used known) g)
      (attempt op target (safeAttribute (some n) (some encodingName) data))
      (fun _ => Tagged name (Carries (n :: encodingName :: used) known) g)
      (Tagged name (Carries used known) g) :=
  (yields_safeAttribute hn he hne hnew henew data).attempt (fun _ _ h => h) fun _ h =>
    h.widen fun _ hm => List.mem_cons_of_mem _ (List.mem_cons_of_mem _ hm)

/-- The name of a node or value is shown, or its stored bytes, or nothing. -/
theorem yields_nameAttribute (op : Operation) (target : Target) (hn : PlainName n)
    (he : PlainName (n ++ "_encoding")) (hne : n ≠ n ++ "_encoding") (hnew : n ∉ used)
    (henew : n ++ "_encoding" ∉ used) (text : Option String) (stored : Bytes) :
    Yields (Tagged name (Carries used known) g) (nameAttribute op target n text stored)
      (fun _ => Tagged name (Carries (n :: (n ++ "_encoding") :: used) known) g)
      (Tagged name (Carries used known) g) := by
  unfold nameAttribute
  split
  · exact yields_base64Attribute hn he hne hnew henew stored
  · exact yields_attempt_safeAttribute op target hn he hne hnew henew _

end Attributes

/-! ## Elements -/

/-- An element with its content. -/
theorem yields_element {α : Type} {content : Action Writer α}
    {shows : α → List Attribute → List Tree → Prop} (hinner : g.outer ≠ [])
    (hname : PlainName name) (hroot : name ≠ rootName)
    (h : Yields (Tagged name (· = []) g) content
      (fun a w => ∃ attributes inside, shows a attributes inside ∧
        Page ((g.opened name attributes).add inside) w) fail) :
    Yields (Page g) (element name content)
      (fun a w => ∃ attributes inside, shows a attributes inside ∧
        Page (g.add [.element name attributes inside]) w) fail := by
  refine (yields_startElement hname).bind fun _ => h.bind fun a => ?_
  have hend : Yields
      (fun w => ∃ attributes inside, shows a attributes inside ∧
        Page ((g.opened name attributes).add inside) w)
      (Action.write Writer.endElement)
      (fun _ w => ∃ attributes inside, shows a attributes inside ∧
        Page (g.add [.element name attributes inside]) w) fail :=
    .write fun w ⟨attributes, inside, hshows, hpage⟩ => by
      obtain ⟨w', hcall, hpage'⟩ := Writer.At.endElement hpage hinner ⟨hname.2, hroot⟩
      exact ⟨(), w', hcall, attributes, inside, hshows, hpage'⟩
  exact hend.bind fun _ => .pure fun _ hw => hw

/-- Whether the document so far is these trees and at their end some of a sort. -/
def Adds (g : Growing) (sort : List Tree → Prop) (w : Writer) : Prop :=
  ∃ ts, sort ts ∧ Page (g.add ts) w

/-- One tree of a sort. -/
def One (sort : Tree → Prop) (ts : List Tree) : Prop :=
  ∃ t, ts = [t] ∧ sort t

/-- A time stamp is written if there is one. -/
theorem yields_timeElement (hinner : g.outer ≠ []) (ticks : Option Int) :
    Yields (Page g) (timeElement ticks) (fun _ => Adds g (AtMostOne IsTime)) fail := by
  unfold timeElement
  split
  · exact .pure fun w hw => ⟨[], .inl rfl, by rwa [Growing.add_nil]⟩
  next text htext =>
    obtain ⟨hprintable, hne⟩ := printable_time htext
    have hcontent : Yields (Tagged "mtime" (· = []) g) (Action.write (Writer.writeText text))
        (fun _ w => ∃ attributes inside, (attributes = [] ∧ inside = [.text text]) ∧
          Page ((g.opened "mtime" attributes).add inside) w) fail :=
      .write fun w hw => by
        obtain ⟨_, rfl, hpage⟩ := hw.page
        obtain ⟨w', hcall, hpage'⟩ := Writer.At.writeText hpage (by simp [Growing.opened]) hne
          (legal_of_printable hprintable) hprintable
        exact ⟨(), w', hcall, [], [.text text], ⟨rfl, rfl⟩, hpage'⟩
    refine (yields_element hinner (by decide) (by decide) hcontent).bind fun _ => .pure ?_
    rintro w ⟨_, _, ⟨rfl, rfl⟩, hpage⟩
    exact ⟨_, .inr ⟨_, rfl, text, rfl⟩, hpage⟩

/-- A byte run. -/
def byteRunTree (offset length : Int) : Tree :=
  .element "byte_run" [⟨"file_offset", toString offset⟩, ⟨"len", toString length⟩] []

theorem yields_byteRun (hinner : g.outer ≠ []) (offset length : Int) :
    Yields (Page g) (byteRun offset length)
      (fun _ => Page (g.add [byteRunTree offset length])) fail := by
  have hcontent : Yields (Tagged "byte_run" (· = []) g)
      (do
        writeAttribute "file_offset" (toString offset)
        writeAttribute "len" (toString length))
      (fun _ w => ∃ attributes inside,
        (attributes = [⟨"file_offset", toString offset⟩, ⟨"len", toString length⟩] ∧
          inside = []) ∧ Page ((g.opened "byte_run" attributes).add inside) w) fail := by
    have hoffset : Yields (Tagged "byte_run" (· = []) g)
        (writeAttribute "file_offset" (toString offset))
        (fun _ => Tagged "byte_run" (· = [⟨"file_offset", toString offset⟩]) g) fail :=
      yields_newAttribute (by decide) (printable_decimal offset) (by rintro _ rfl; simp)
        (by rintro _ rfl; rfl)
    have hlength : Yields (Tagged "byte_run" (· = [⟨"file_offset", toString offset⟩]) g)
        (writeAttribute "len" (toString length))
        (fun _ => Tagged "byte_run"
          (· = [⟨"file_offset", toString offset⟩, ⟨"len", toString length⟩]) g) fail :=
      yields_newAttribute (by decide) (printable_decimal length) (by rintro _ rfl; simp)
        (by rintro _ rfl; rfl)
    refine hoffset.bind fun _ => hlength.imp_post fun _ w hw => ?_
    obtain ⟨_, rfl, hpage⟩ := hw.page
    refine ⟨_, [], ⟨rfl, rfl⟩, ?_⟩
    rwa [Growing.add_nil]
  refine (yields_element hinner (by decide) (by decide) hcontent).imp_post ?_
  rintro _ w ⟨_, _, ⟨rfl, rfl⟩, hpage⟩
  exact hpage

theorem page_of_tagged {w : Writer} (h : Tagged name (· = []) g w) : Page (g.opened name []) w := by
  obtain ⟨_, rfl, hpage⟩ := h.page
  exact hpage

theorem outer_opened_ne_nil (name : String) (attributes : List Attribute) :
    (g.opened name attributes).outer ≠ [] :=
  List.cons_ne_nil _ _

/-- The byte runs of a node are written, or nothing is. -/
theorem yields_nodeByteRuns (hinner : g.outer ≠ []) (src : Source) (n : Node) :
    Yields (Page g) (nodeByteRuns src n)
      (fun _ => Adds g (One IsByteRuns)) (Page g) := by
  refine (yields_ask _ _).bind fun length => .of_and fun _ => ?_
  have hcontent : Yields (Tagged "byte_runs" (· = []) g) (byteRun n.handle length)
      (fun _ w => ∃ attributes inside,
        (attributes = [] ∧ inside = [byteRunTree n.handle length]) ∧
          Page ((g.opened "byte_runs" attributes).add inside) w) (Page g) :=
    (yields_byteRun (outer_opened_ne_nil _ _) _ _).imp (fun _ => page_of_tagged)
      (fun _ w hw => ⟨[], _, ⟨rfl, rfl⟩, hw⟩) fun _ h => h
  refine (yields_element hinner (by decide) (by decide) hcontent).imp_post ?_
  rintro _ w ⟨_, _, ⟨rfl, rfl⟩, hpage⟩
  refine ⟨_, ⟨_, rfl, _, rfl, .inl rfl, ?_⟩, hpage⟩
  rw [List.forall_mem_singleton]
  exact ⟨_, _, rfl⟩

/-- The byte runs of a value are written, or nothing is. -/
theorem yields_valueByteRuns (hinner : g.outer ≠ []) (src : Source) (v : Value) :
    Yields (Page g) (valueByteRuns src v)
      (fun _ => Adds g (One IsByteRuns)) (Page g) := by
  refine (yields_ask _ _).bind fun length => .of_and fun _ => ?_
  refine (yields_ask _ _).bind fun cell => .of_and fun _ => ?_
  have hrun : ∀ offset size : Int, IsByteRun (byteRunTree offset size) :=
    fun offset size => ⟨offset, size, rfl⟩
  have hcontent : Yields (Tagged "byte_runs" (· = []) g)
      (do
        byteRun v.handle length
        if inlineLimit < cell.2 then
          byteRun cell.1 cell.2
          return 2
        else return 1)
      (fun _ w => ∃ attributes inside,
        (attributes = [] ∧ (inside.length = 1 ∨ inside.length = 2) ∧
          ∀ run ∈ inside, IsByteRun run) ∧
          Page ((g.opened "byte_runs" attributes).add inside) w) (Page g) := by
    have hfirst : Yields (Tagged "byte_runs" (· = []) g) (byteRun v.handle length)
        (fun _ => Page ((g.opened "byte_runs" []).add [byteRunTree v.handle length])) (Page g) :=
      (yields_byteRun (outer_opened_ne_nil _ _) _ _).imp_pre fun _ => page_of_tagged
    refine hfirst.bind fun _ => ?_
    split
    · have hsecond : Yields
          (Page ((g.opened "byte_runs" []).add [byteRunTree v.handle length]))
          (byteRun cell.1 cell.2)
          (fun _ => Page (((g.opened "byte_runs" []).add [byteRunTree v.handle length]).add
            [byteRunTree cell.1 cell.2])) (Page g) :=
        yields_byteRun (by simp [Growing.opened]) _ _
      refine hsecond.bind fun _ => .pure fun w hw => ?_
      rw [Growing.add_add] at hw
      refine ⟨[], _, ⟨rfl, .inr rfl, ?_⟩, hw⟩
      rw [List.forall_mem_append, List.forall_mem_singleton, List.forall_mem_singleton]
      exact ⟨hrun _ _, hrun _ _⟩
    · refine .pure fun w hw => ⟨[], _, ⟨rfl, .inl rfl, ?_⟩, hw⟩
      rw [List.forall_mem_singleton]
      exact hrun _ _
  refine (yields_element hinner (by decide) (by decide) hcontent).imp_post ?_
  rintro _ w ⟨_, runs, ⟨rfl, hlength, hall⟩, hpage⟩
  exact ⟨_, ⟨_, rfl, runs, rfl, hlength, hall⟩, hpage⟩

/-- A part that is written as a whole or survived. -/
theorem yields_attempt_adds {op : Operation} {target : Target} {α : Type} {act : Action Writer α}
    {sort : Tree → Prop}
    (h : Yields (Page g) act (fun _ => Adds g (One sort)) (Page g)) :
    Yields (Page g) (attempt op target act) (fun _ => Adds g (AtMostOne sort)) (Page g) := by
  refine h.attempt ?_ fun w hpage => ⟨[], .inl rfl, by rwa [Growing.add_nil]⟩
  rintro _ w ⟨ts, hts, hpage⟩
  exact ⟨ts, .inr hts, hpage⟩

end HiveDump.Report
