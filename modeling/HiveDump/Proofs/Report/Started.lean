import HiveDump.Proofs.Markup.Started
import HiveDump.Proofs.Report.Composed

/-!
# The elements that a report starts

A part of a report starts the elements that its calls open, unless the writer refuses something: a
fault of any other kind, whether it is survived or not, leaves what was written before it. Inside
the elements of nodes and values there are only elements of other names.

Results:
* **`Composed.starts`**: a part starts only elements that it may open;
* **`starts_nodeStart`**, **`starts_shown`**: a node and a value start one element of their own.
-/

namespace HiveDump.Report

open HiveDump.Action

variable {α β : Type} {act : Action Writer α} {next : α → Action Writer β} {opens : String → Prop}

/-- Whether a part, unless the writer refuses something, starts elements whose names, in order, are
as required. -/
def Starting (which : List String → Prop) (act : Action Writer α) : Prop :=
  ∀ s : Session Writer, (∀ fault, (act.perform s).1 ≠ .error (.write fault)) →
    ∃ names, which names ∧ Writer.Starts names s.output (act.perform s).2.output

/-- Only elements that may be opened. -/
def Only (opens : String → Prop) (names : List String) : Prop :=
  ∀ name ∈ names, opens name

/-- An element of a name, and only inner elements behind its start tag. -/
def OneOf (name : String) (names : List String) : Prop :=
  ∃ more, Only Inner more ∧ names = name :: more

variable {which which' : List String → Prop}

/-- One part behind another, of which it is known what they start together and what they start if
the second one is not reached. -/
theorem Starting.bind {both : List String → Prop} (h : Starting which act)
    (hnext : ∀ a, Starting which' (next a)) (hstop : ∀ names, which names → both names)
    (hboth : ∀ names more, which names → which' more → both (names ++ more)) :
    Starting both (act >>= next) := by
  intro s hs
  have hact := h s
  rw [perform_bind] at hs ⊢
  rcases hperform : act.perform s with ⟨fault | a, t⟩
  · rw [hperform] at hs hact
    obtain ⟨names, hwhich, hstarts⟩ :=
      hact fun other hother => hs other (congrArg Except.error (Except.error.inj hother))
    exact ⟨names, hstop names hwhich, hstarts⟩
  · rw [hperform] at hs hact
    obtain ⟨names, hwhich, hstarts⟩ := hact nofun
    obtain ⟨more, hwhich', hmore⟩ := hnext a t hs
    exact ⟨names ++ more, hboth names more hwhich hwhich', hstarts.trans hmore⟩

/-- A call to the writer. -/
theorem starting_write {call : Writing α} (names : List String) (hnames : which names)
    (h : ∀ (w w' : Writer) a, w.call call = (.ok a, w') → w.Starts names w') :
    Starting which (Action.write call) := by
  intro s hs
  rw [perform_write] at hs ⊢
  rcases hcall : s.output.call call with ⟨fault | a, w'⟩
  · rw [hcall] at hs
    exact absurd rfl (hs fault)
  · exact ⟨names, hnames, h s.output w' a hcall⟩

theorem Only.append {names more : List String} (h : Only opens names) (h' : Only opens more) :
    Only opens (names ++ more) :=
  List.forall_mem_append.mpr ⟨h, h'⟩

theorem Starting.only_bind (h : Starting (Only opens) act)
    (hnext : ∀ a, Starting (Only opens) (next a)) : Starting (Only opens) (act >>= next) :=
  h.bind hnext (fun _ hnames => hnames) fun _ _ => Only.append

theorem starting_nothing {act : Action Writer α}
    (h : ∀ s, (act.perform s).2.output = s.output) : Starting (Only opens) act := by
  intro s _
  rw [h s]
  exact ⟨[], nofun, .refl s.output⟩

theorem Bare.starts (h : Bare opens act) : Starting (Only opens) act := by
  induction h with
  | pure a => exact starting_nothing fun _ => rfl
  | throw fault => exact starting_nothing fun _ => rfl
  | log line => exact starting_nothing fun _ => rfl
  | call c hc hopens =>
    refine starting_write c.opens?.toList ?_ fun _ _ _ => Writer.starts_call hc
    exact fun name hname => hopens name (Option.mem_toList.mp hname)
  | bind _ _ ihAct ihNext => exact ihAct.only_bind ihNext

/-- A fault of the writer is not survived. -/
theorem isRecoverable_write (fault : WriteFault) : (Fault.write fault).isRecoverable = false := by
  cases fault <;> rfl

/-- **A part starts only elements that it may open**, whatever its policy raises. -/
theorem Composed.starts (h : Composed opens act) : Starting (Only opens) act := by
  induction h with
  | bare h => exact h.starts
  | bind _ _ ihAct ihNext => exact ihAct.only_bind ihNext
  | @recover _ part op _ target goOn hpart =>
    intro s hs
    have hstarts := hpart.starts s
    rw [perform_recover] at hs ⊢
    rcases hperform : part.perform s with ⟨fault | a, t⟩
    · rw [hperform] at hs hstarts
      by_cases hr : fault.isRecoverable = true
      · dsimp only
        rw [if_pos hr]
        refine hstarts fun other hother => ?_
        rw [Except.error.inj hother, isRecoverable_write] at hr
        cases hr
      · dsimp only at hs ⊢
        rw [if_neg hr] at hs ⊢
        exact hstarts fun other hother =>
          hs other (congrArg Except.error (Except.error.inj hother))
    · rw [hperform] at hstarts
      exact hstarts nofun

/-! ## Nodes and values -/

/-- An element with what follows its start tag. -/
theorem starting_element {rest : Action Writer α} (name : String)
    (h : Starting (Only Inner) rest) :
    Starting (OneOf name) (Action.write (Writer.startElement name) >>= fun _ => rest) := by
  have hopened : Starting (· = [name]) (Action.write (Writer.startElement name)) :=
    starting_write [name] rfl fun _ _ _ => Writer.starts_startElement
  refine hopened.bind (fun _ => h) ?_ ?_
  · rintro _ rfl
    exact ⟨[], nofun, rfl⟩
  · rintro _ more rfl hmore
    exact ⟨more, hmore, rfl⟩

/-- **A node starts one element of its own.** -/
theorem starts_nodeStart (src : Source) (n : Node) :
    Starting (OneOf "node") (nodeStart src n) :=
  starting_element "node" (composed_nodeTag src n).starts

/-- **A value starts one element of its own**, once it is known how it is shown. -/
theorem starts_shown (src : Source) (shape : Shape) (v : Value) (p : Payload) (type : String) :
    Starting (OneOf "value") (do
      valueStart v type (announced shape v)
      payload shape v p
      valueEnd src v) := by
  have hcontent : Starting (Only Inner) (do
      payload shape v p
      valueEnd src v) :=
    ((composed_payload shape v p).bind fun _ => composed_valueEnd src v).starts
  refine (starting_element "value" (composed_valueTag v type _).starts).bind (fun _ => hcontent)
    (fun _ hnames => hnames) ?_
  rintro _ more ⟨inner, hinner, rfl⟩ hmore
  exact ⟨inner ++ more, hinner.append hmore, rfl⟩

end HiveDump.Report
