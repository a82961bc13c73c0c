import HiveDump.Failing
import HiveDump.Proofs.Markup.WriterCalls

/-!
# Open elements, whatever goes wrong

What the calls of a writer do to its open elements, in every encoding and on every device, whether
they succeed or not. Nothing that is written is taken back (`Continues`), and the end tag of an
element is written only by the call that closes it.

`Keeps` follows the writer through a call: from every writer that satisfies `pre` the document only
grows, without the end tag of `root`, and the call leaves a writer that satisfies `post` if it
succeeds.

Results:
* `Continues.unclosed`: an end tag that is missing was never there;
* **`Keeps.bind`**: calls are put together;
* **`keeps_startElement`**, **`keeps_endElement`**: one element more, one less;
* `keeps_writeAttribute`, `keeps_writeText`, `keeps_endAttribute`: calls that leave the elements
  open as they are.
-/

namespace HiveDump.Writer

/-! ## Documents that grow -/

/-- Whether a writer goes on with the document of another one. -/
structure Continues (w w' : Writer) : Prop where
  label : w'.label = w.label
  tokens : w.tokens.toList <+: w'.tokens.toList

theorem Continues.refl (w : Writer) : Continues w w :=
  ⟨rfl, List.prefix_refl _⟩

theorem Continues.trans {u v w : Writer} (huv : Continues u v) (hvw : Continues v w) :
    Continues u w :=
  ⟨hvw.label.trans huv.label, huv.tokens.trans hvw.tokens⟩

/-- Whether the end tag of an element is missing. -/
def Unclosed (root : String) (w : Writer) : Prop :=
  .endTag root ∉ w.tokens.toList

theorem Continues.unclosed {root : String} {w w' : Writer} (h : Continues w w')
    (hw' : Unclosed root w') : Unclosed root w :=
  fun hmem => hw' (h.tokens.subset hmem)

/-! ## Calls -/

variable {α β : Type} {root : String} {pre pre' : Writer → Prop} {post post' : α → Writer → Prop}
  {call : Writing α}

/-- What a call does to a document that it does not close. -/
def Keeps (root : String) (pre : Writer → Prop) (call : Writing α)
    (post : α → Writer → Prop) : Prop :=
  ∀ w, pre w → Continues w (w.call call).2 ∧
    (Unclosed root w → Unclosed root (w.call call).2) ∧
    ∀ a, (w.call call).1 = .ok a → post a (w.call call).2

theorem Keeps.imp (h : Keeps root pre call post) (hpre : ∀ w, pre' w → pre w)
    (hpost : ∀ a w, post a w → post' a w) : Keeps root pre' call post' := by
  intro w hw
  obtain ⟨hgrows, hopen, hok⟩ := h w (hpre w hw)
  exact ⟨hgrows, hopen, fun a ha => hpost a _ (hok a ha)⟩

theorem Keeps.of_exists {ι : Sort _} {each : ι → Writer → Prop}
    (h : ∀ i, Keeps root (each i) call post) : Keeps root (fun w => ∃ i, each i w) call post := by
  rintro w ⟨i, hw⟩
  exact h i w hw

theorem Keeps.of_and {q : Prop} (h : q → Keeps root pre call post) :
    Keeps root (fun w => q ∧ pre w) call post := by
  rintro w ⟨hq, hw⟩
  exact h hq w hw

theorem Keeps.pure {a : α} (h : ∀ w, pre w → post a w) : Keeps root pre (pure a) post := by
  intro w hw
  refine ⟨.refl w, id, fun b hb => ?_⟩
  cases hb
  exact h w hw

theorem Keeps.throw (fault : WriteFault) : Keeps root pre (throw fault) post :=
  fun w _ => ⟨.refl w, id, fun _ hb => nomatch hb⟩

/-- One call behind another. -/
theorem Keeps.bind {next : α → Writing β} {last : β → Writer → Prop}
    (h : Keeps root pre call post) (hnext : ∀ a, Keeps root (post a) (next a) last) :
    Keeps root pre (call >>= next) last := by
  intro w hw
  obtain ⟨hgrows, hopen, hok⟩ := h w hw
  rw [call_bind]
  rcases hcall : w.call call with ⟨fault | a, w'⟩
  · rw [hcall] at hgrows hopen
    exact ⟨hgrows, hopen, fun _ hb => nomatch hb⟩
  · rw [hcall] at hgrows hopen hok
    obtain ⟨hgrows', hopen', hok'⟩ := hnext a w' (hok a rfl)
    exact ⟨hgrows.trans hgrows', fun hw => hopen' (hopen hw), hok'⟩

theorem Keeps.discard {last : Writer → Prop} (h : Keeps root pre call post)
    (hpost : ∀ a w, post a w → last w) : Keeps root pre (discard call) fun _ => last := by
  intro w hw
  obtain ⟨hgrows, hopen, hok⟩ := h w hw
  rw [call_discard]
  refine ⟨hgrows, hopen, fun _ hb => ?_⟩
  obtain ⟨a, ha, -⟩ := Failing.map_eq_ok.mp hb
  exact hpost a _ (hok a ha)

/-- What follows a refused call does not matter. -/
theorem Keeps.refused {refusal : Writing α} {next : α → Writing β} {last : β → Writer → Prop}
    (h : Keeps root pre refusal fun _ _ => False) : Keeps root pre (refusal >>= next) last :=
  h.bind fun _ _ hw => hw.elim

/-- A call that is refused under a condition. -/
theorem Keeps.guard {c : Prop} [Decidable c] {refusal : Writing Unit} {next : Unit → Writing β}
    {last : β → Writer → Prop} (hrefusal : Keeps root pre refusal fun _ _ => False)
    (hnext : Keeps root pre (next ()) last) :
    Keeps root pre (if c then refusal >>= next else next ()) last := by
  split
  · exact hrefusal.refused
  · exact hnext

theorem keeps_get : Keeps root pre get fun a w => a = w ∧ pre w := by
  intro w hw
  refine ⟨.refl w, id, fun a ha => ?_⟩
  cases ha
  exact ⟨rfl, hw⟩

/-- What a call does to a writer does not depend on whether the writer was looked at before. -/
theorem Keeps.got {w : Writer} (h : Keeps root pre call post) :
    Keeps root (fun w' => w = w' ∧ pre w') call post :=
  h.imp (fun _ hw => hw.2) fun _ _ h => h

/-- A change that writes nothing. -/
theorem keeps_modify {change : Writer → Writer} {last : Writer → Prop}
    (h : ∀ w, pre w → (change w).label = w.label ∧ (change w).tokens = w.tokens ∧ last (change w)) :
    Keeps root pre (modify change) fun _ => last := by
  intro w hw
  obtain ⟨hlabel, htokens, hlast⟩ := h w hw
  refine ⟨⟨hlabel, ?_⟩, ?_, fun _ _ => hlast⟩
  · have hsame : w.tokens.toList = (change w).tokens.toList := by rw [htokens]
    exact hsame ▸ List.prefix_refl w.tokens.toList
  · rw [call_modify, Unclosed, Unclosed, htokens]
    exact id

theorem keeps_set {w' : Writer} {last : Writer → Prop}
    (h : ∀ w, pre w → w'.label = w.label ∧ w'.tokens = w.tokens ∧ last w') :
    Keeps root pre (set w') fun _ => last :=
  have hchange : Keeps root pre (modify fun _ => w') fun _ => last := keeps_modify h
  hchange

/-! ## Output -/

/-- Whether these elements are open. -/
def Names (ns : List String) (w : Writer) : Prop :=
  w.openNames = ns

/-- Whether these elements are open and no start tag is pending. -/
structure Settled (ns : List String) (w : Writer) : Prop where
  pending : w.pending = none
  openElements : w.openElements = ns

variable {ns : List String} {n : String}

theorem settled_of_names_nil {w : Writer} (h : Names [] w) : Settled [] w := by
  rw [Names, openNames, List.append_eq_nil_iff, List.map_eq_nil_iff, Option.toList_eq_nil_iff] at h
  exact ⟨h.1, h.2⟩

theorem Settled.names {w : Writer} (h : Settled ns w) : Names ns w := by
  rw [Names, openNames, h.pending, h.openElements]
  rfl

theorem keeps_push {t : Token} (ht : t ≠ .endTag root) (next : Writer → Device) :
    Keeps root (Settled ns) (modify fun w => { w with tokens := w.tokens.push t, device := next w })
      fun _ => Settled ns := by
  intro w hw
  refine ⟨⟨rfl, ?_⟩, fun hopen => ?_, fun _ _ => ⟨hw.pending, hw.openElements⟩⟩
  · rw [call_modify, Array.toList_push]
    exact List.prefix_append _ _
  · rw [call_modify, Unclosed, Array.toList_push, List.mem_append, List.mem_singleton]
    exact fun h => h.elim hopen fun h => ht h.symm

theorem keeps_refuse (name : String) (reason : MarkupFault) :
    Keeps root pre (refuse name reason : Writing α) post :=
  .throw _

theorem keeps_misuse (m : Misuse) : Keeps root pre (misuse m : Writing α) post :=
  .throw _

/-- A change that writes nothing, in front of a failure. -/
theorem keeps_modify_then_refuse {change : Writer → Writer}
    (h : ∀ w, (change w).label = w.label ∧ (change w).tokens = w.tokens) (name : String)
    (reason : MarkupFault) :
    Keeps root pre (do modify change; refuse name reason) post :=
  have hchange : Keeps root pre (modify change) fun _ _ => True :=
    keeps_modify fun w _ => ⟨(h w).1, (h w).2, trivial⟩
  hchange.bind fun _ => keeps_refuse _ _

/-- What is written keeps the elements open as they are. -/
theorem keeps_emit {t : Token} (ht : t ≠ .endTag root) (name : String) :
    Keeps root (Settled ns) (emit name t) fun _ => Settled ns := by
  refine keeps_get.bind fun w => ?_
  cases w.device with
  | working => exact (keeps_push ht (·.device)).got
  | lasting tokens =>
    cases tokens with
    | succ n => exact (keeps_push ht fun _ => .lasting n).got
    | zero =>
      refine keeps_modify_then_refuse ?_ _ _
      exact fun _ => ⟨rfl, rfl⟩
  | full held =>
    refine keeps_get.bind fun w => ?_
    split
    · exact keeps_modify fun v hv => ⟨rfl, rfl, hv.2.2.pending, hv.2.2.openElements⟩
    · refine keeps_modify_then_refuse ?_ _ _
      exact fun _ => ⟨rfl, rfl⟩
  | failed reason => exact keeps_refuse _ _

theorem keeps_emitEndTag (hn : n ≠ root) (name : String) :
    Keeps root (Settled ns) (emitEndTag name n) fun _ => Settled ns := by
  have hend : Token.endTag n ≠ .endTag root := fun h => hn (Token.endTag.inj h)
  refine keeps_get.bind fun w => ?_
  cases w.device with
  | working | full held | lasting tokens => exact (keeps_emit hend name).got
  | failed reason => exact .pure fun w hw => hw.2

/-- The start tag that is pending is written. -/
theorem keeps_flush (name : String) :
    Keeps root (Names ns) (flush name) fun _ => Settled ns := by
  refine keeps_get.bind fun w => ?_
  cases hp : w.pending with
  | none =>
    refine .pure fun w' hw => ?_
    obtain ⟨rfl, hnames⟩ := hw
    rw [Names, openNames, hp] at hnames
    exact ⟨hp, hnames⟩
  | some tag =>
    refine Keeps.guard (keeps_misuse _) ?_
    have hset : Keeps root (fun w' => w = w' ∧ Names ns w') (set { w with pending := none })
        fun _ w' => ∃ es, ns = tag.name :: es ∧ Settled es w' := by
      refine keeps_set fun w' hw => ?_
      obtain ⟨rfl, hnames⟩ := hw
      rw [Names, openNames, hp] at hnames
      exact ⟨rfl, rfl, w.openElements, hnames.symm, rfl, rfl⟩
    refine hset.bind fun _ => .of_exists fun es => .of_and fun hns => ?_
    have hwrite : Keeps root (Settled es) (do
        emit name (.startTag tag.name tag.attributes)
        modify fun w => { w with openElements := tag.name :: w.openElements })
        fun _ => Settled ns := by
      refine (keeps_emit (by simp) name).bind fun _ => keeps_modify fun w hw => ?_
      exact ⟨rfl, rfl, hw.pending, by rw [hns, hw.openElements]⟩
    cases tagFault? tag with
    | none => exact Keeps.guard (keeps_refuse _ _) hwrite
    | some reason => exact (keeps_refuse name reason).refused

/-! ## Elements -/

theorem keeps_requireDocument (name : String) :
    Keeps root pre (requireDocument name) fun _ => pre := by
  refine keeps_get.bind fun w => ?_
  split
  · exact keeps_misuse _
  · exact .pure fun _ hw => hw.2

theorem keeps_startDocument : Keeps root (Names []) startDocument fun _ => Names [] := by
  refine (keeps_get.imp (fun _ => settled_of_names_nil) fun _ _ h => h).bind fun w => ?_
  refine Keeps.guard (keeps_misuse _) (Keeps.guard (keeps_refuse _ _) ?_)
  cases Charset.ofLabel? w.label with
  | none =>
    have hset : Keeps root (fun w' => w = w' ∧ Settled [] w')
        (set { w with stage := .unwritable }) fun _ _ => True :=
      keeps_set fun w' hw => ⟨hw.1 ▸ rfl, hw.1 ▸ rfl, trivial⟩
    exact hset.bind fun _ => .throw _
  | some cs =>
    have hset (device : Device) : Keeps root (fun w' => w = w' ∧ Settled [] w')
        (set { w with stage := .writing, rootClosed := false, device := device })
        fun _ => Settled [] := by
      refine keeps_set fun w' hw => ?_
      obtain ⟨rfl, hsettled⟩ := hw
      exact ⟨rfl, rfl, hsettled.pending, hsettled.openElements⟩
    refine (hset _).bind fun _ => ?_
    exact (keeps_emit (by simp) _).imp (fun _ h => h) fun _ _ h => h.names

/-- **A new element is open.** -/
theorem keeps_startElement (name : String) :
    Keeps root (Names ns) (startElement name) fun _ => Names (name :: ns) := by
  refine (keeps_requireDocument _).bind fun _ => (keeps_flush _).bind fun _ => ?_
  refine keeps_modify fun w hw => ⟨rfl, rfl, ?_⟩
  change name :: w.openElements = name :: ns
  rw [hw.openElements]

/-- **The innermost element is closed**; it is not the one whose end tag must not be written. -/
theorem keeps_endElement (hn : n ≠ root) :
    Keeps root (Names (n :: ns)) endElement fun _ => Names ns := by
  refine (keeps_requireDocument _).bind fun _ => keeps_get.bind fun w => ?_
  refine Keeps.guard (keeps_misuse _) ?_
  refine (keeps_flush _).got.bind fun _ => ?_
  refine keeps_get.bind fun w => ?_
  cases hopen : w.openElements with
  | nil => exact keeps_misuse _
  | cons name rest =>
    have hset : Keeps root (fun w' => w = w' ∧ Settled (n :: ns) w')
        (set { w with openElements := rest, rootClosed := rest.isEmpty })
        fun _ w' => name = n ∧ Settled ns w' := by
      refine keeps_set fun w' hw => ?_
      obtain ⟨rfl, hsettled⟩ := hw
      have hnames := hsettled.openElements
      rw [hopen] at hnames
      obtain ⟨hname, hrest⟩ := List.cons_eq_cons.mp hnames
      exact ⟨rfl, rfl, hname, hsettled.pending, hrest⟩
    refine hset.bind fun _ => .of_and fun hname => ?_
    subst hname
    exact (keeps_emitEndTag hn _).imp (fun _ h => h) fun _ _ h => h.names

/-- Once all elements are closed, finishing a document writes nothing. -/
theorem keeps_endDocument : Keeps root (Names []) endDocument fun _ => Names [] := by
  refine (keeps_requireDocument _).bind fun _ => keeps_get.bind fun w => ?_
  have hnone : Keeps root (fun w' => w = w' ∧ Names [] w') (endElements w.depth)
      fun _ => Names [] := by
    intro w' hw
    obtain ⟨rfl, hnames⟩ := hw
    have hsettled := settled_of_names_nil hnames
    have hdepth : w.depth = 0 := by
      rw [depth, hsettled.pending, hsettled.openElements]
      rfl
    rw [hdepth]
    exact (Keeps.pure fun _ h => h) w hnames
  have hstage : Keeps root (Names []) (modify fun w => { w with stage := .finished })
      fun _ => Names [] := keeps_modify fun w hw => ⟨rfl, rfl, hw⟩
  refine hnone.bind fun _ => hstage.bind fun _ => keeps_get.bind fun w => ?_
  refine Keeps.guard (keeps_refuse _ _) ?_
  cases w.device with
  | failed reason => exact keeps_refuse _ _
  | working | full held | lasting tokens => exact .pure fun w hw => hw.2

theorem keeps_writeText (text : String) :
    Keeps root (Names ns) (writeText text) fun _ => Names ns := by
  refine (keeps_requireDocument _).bind fun _ => (keeps_flush _).bind fun _ => ?_
  refine keeps_get.bind fun w => ?_
  refine Keeps.guard (keeps_misuse _) ?_
  have hwrite : Keeps root (fun w' => w = w' ∧ Settled ns w')
      (if !text.isEmpty then emit "write_string" (.text text) else pure ()) fun _ => Names ns := by
    split
    · exact (keeps_emit (by simp) _).imp (fun _ h => h.2) fun _ _ h => h.names
    · exact .pure fun w hw => hw.2.names
  cases textFault? text with
  | none => exact hwrite
  | some reason => exact (keeps_refuse _ _).refused

/-! ## Attributes -/

theorem keeps_requireTag (name : String) :
    Keeps root (Names ns) (requireTag name) fun tag w => w.pending = some tag ∧ Names ns w := by
  refine keeps_get.bind fun w => ?_
  cases hp : w.pending with
  | none => exact keeps_misuse _
  | some tag =>
    refine .pure fun w' hw => ?_
    obtain ⟨rfl, hnames⟩ := hw
    exact ⟨hp, hnames⟩

theorem keeps_writeAttribute (name value : String) :
    Keeps root (Names ns) (writeAttribute name value) fun _ => Names ns := by
  refine (keeps_requireTag _).bind fun tag => Keeps.guard (keeps_misuse _) ?_
  refine keeps_modify fun w hw => ⟨rfl, rfl, ?_⟩
  obtain ⟨hp, hnames⟩ := hw
  rw [Names, openNames, hp] at hnames
  exact hnames

theorem keeps_startAttribute (name : String) :
    Keeps root (Names ns) (startAttribute name) fun _ => Names ns := by
  refine ((keeps_requireTag _).discard fun _ _ hw => hw.2).bind fun _ => keeps_get.bind fun w => ?_
  exact Keeps.guard (keeps_misuse _) (keeps_modify fun w hw => ⟨rfl, rfl, hw.2⟩)

theorem keeps_writeBase64 (data : Bytes) (start : Int) (length : Option Int) :
    Keeps root (Names ns) (writeBase64 data start length) fun _ => Names ns := by
  refine keeps_get.bind fun w => ?_
  cases w.openAttribute with
  | none => exact keeps_misuse _
  | some a => exact keeps_modify fun w' hw => ⟨rfl, rfl, hw.2⟩

theorem keeps_endAttribute : Keeps root (Names ns) endAttribute fun _ => Names ns := by
  refine keeps_get.bind fun w => ?_
  cases w.openAttribute with
  | none => exact keeps_misuse _
  | some a =>
    refine Keeps.bind ?_ fun _ => keeps_writeAttribute _ _
    exact keeps_modify fun w' hw => ⟨rfl, rfl, hw.2⟩

end HiveDump.Writer
