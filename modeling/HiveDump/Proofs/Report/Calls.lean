import HiveDump.Proofs.Conversion.Callbacks
import HiveDump.Proofs.Report.Rejected
import HiveDump.Report.Call
import Mathlib.Data.List.Induction
import Mathlib.Data.List.Infix

/-!
# A report under calls in any order

A call leaves the document inside its root, with one node more open, one less, or as many. Nothing
else counts for the calls behind it, so they need not come in the order of a walk. The writer
refuses none of them as long as no node is left that was not entered; questions that fail are
survived; and a value that does not fit its step is rejected before anything is done.

Results:
* `brings_present`: a step writes a value that fits it as a whole, whatever the payload;
* **`Open.act`**: what one call does; **`open_afterEach`**: what calls do;
* **`afterEach_spec`**: results, depth and document of calls in any order.
-/

namespace HiveDump.Report

open HiveDump.Action Markup Markup.Tree

variable {label : String} {attributes : List Attribute} {g : Growing} {src : Source}
  {s : Session Writer} {shape : Shape} {v : Value} {p : Payload} {d : Nat}

/-! ## Failed questions -/

/-- Whether questions fail only because a handle or a data cell is not what it should be. -/
def FailsSoftly (src : Source) : Prop :=
  ∀ fault, src.Answers fault → fault.isProvenance = true

theorem isRecoverable_of_isProvenance {fault : Fault} (h : fault.isProvenance = true) :
    fault.isRecoverable = true := by
  rw [Fault.isRecoverable, h, Bool.or_true]

theorem FailsSoftly.timestamp (h : FailsSoftly src) (n : Node) : Survives (src.timestamp n) :=
  fun fault hfault => isRecoverable_of_isProvenance (h fault (.timestamp hfault))

theorem FailsSoftly.nodeRuns (h : FailsSoftly src) (n : Node) : Survives (nodeRuns src n) := by
  intro fault hfault
  unfold Report.nodeRuns at hfault
  cases hlength : src.nodeLength n with
  | ok length =>
    rw [hlength] at hfault
    cases hfault
  | error reason =>
    rw [hlength] at hfault
    cases hfault
    unfold nodeFault
    split
    · rfl -- reported as a handle that is no node, which is survived as well
    · exact isRecoverable_of_isProvenance (h reason (.nodeLength hlength))

theorem FailsSoftly.valueRuns (h : FailsSoftly src) (v : Value) : Survives (valueRuns src v) := by
  intro fault hfault
  unfold Report.valueRuns at hfault
  cases hlength : src.valueLength v with
  | error reason =>
    rw [hlength] at hfault
    cases hfault
    unfold valueFault
    split
    · rfl
    · exact isRecoverable_of_isProvenance (h reason (.valueLength hlength))
  | ok length =>
    cases hcell : src.dataCell v with
    | error reason =>
      rw [hlength, hcell] at hfault
      cases hfault
      unfold cellFault
      split
      all_goals first
        | rfl
        | exact isRecoverable_of_isProvenance (h reason (.dataCell hcell))
    | ok cell =>
      rw [hlength, hcell] at hfault
      cases hfault

/-- A hive in memory fails softly, unless its builder has put other faults into it. -/
theorem failsSoftly_memory {h : MemoryHive}
    (hfaults : ∀ handle fault, h.dataCellFaults.get? handle = some fault →
      fault.isProvenance = true) : FailsSoftly h.source := by
  intro fault hanswers
  rcases h.answers_cases hanswers with hprovenance | ⟨handle, hfault⟩
  · exact hprovenance
  · exact hfaults handle fault hfault

/-! ## Values in any step -/

/-- What is shown of a payload of the right type. -/
theorem exists_payloadShown (h : shape.Takes p) (v : Value) :
    ∃ shown, payloadShown shape v p = .ok shown := by
  cases shape with
  | string =>
    rcases h with rfl | ⟨s, rfl⟩
    · exact ⟨_, rfl⟩
    · have hshown := dataShown_text "value" "value_encoding" s
      exact ⟨_, congrArg (·.map fun as => ({ attributes := as } : ValueShown)) hshown⟩
  | dword =>
    obtain ⟨n, rfl⟩ := h
    exact ⟨_, rfl⟩
  | qword =>
    obtain ⟨n, rfl⟩ := h
    exact ⟨_, rfl⟩
  | _ => exact ⟨_, rfl⟩

/-- **A step writes a value that fits it as a whole.** -/
theorem brings_present (label : String) (hinner : g.outer ≠ []) (hfits : Fits shape v)
    (htakes : shape.Takes p) (hruns : Survives (valueRuns src v)) :
    ∃ given tree, Brings (Stands label g) (present src shape v p) given ()
      (Stands label (g.add [tree])) := by
  obtain ⟨-, type, htype⟩ | ⟨hmisfit, -⟩ := valueType_cases shape v
  · obtain ⟨shown, hshown⟩ := exists_payloadShown htakes v
    have hlegal : legal type = true := legal_of_printable (plain_valueType htype).1
    unfold present
    rw [htype]
    exact ⟨_, _, (brings_ask type id).first <| (brings_valueStart v hlegal _).bind <|
      (brings_payload (names_valueMarks v type _) hshown).bind (brings_valueEnd hinner hruns)⟩
  · exact absurd hfits hmisfit

/-- A value with the shape of a list has entries. -/
theorem exists_strings (h : v.shape = .ok .strings) : ∃ entries, v.strings = .ok entries := by
  have hlist : v.kind = .strings ∧ v.decoded = true := by
    unfold Value.shape at h
    cases hdecoded : v.decoded with
    | true =>
      rw [hdecoded] at h
      have hkind : Shape.ofKind v.kind = .strings := Except.ok.inj h
      cases hk : v.kind <;> rw [hk] at hkind <;> first | exact ⟨rfl, rfl⟩ | cases hkind
    | false =>
      rw [hdecoded] at h
      cases htext : v.kind.isText <;> rw [htext] at h <;> cases h
  unfold Value.strings
  rw [if_pos hlist]
  cases v.data <;> exact ⟨_, rfl⟩

/-- A value is not shown only if it has no shape. -/
theorem kind_of_presentation {fault : Fault} (h : v.presentation = .error fault) :
    fault.kind = .invariant := by
  unfold Value.presentation at h
  rcases Failing.bind_eq_error.mp h with hshape | ⟨shape, hshape, h⟩
  · unfold Value.shape at hshape
    split at hshape
    · cases hshape
    · split at hshape
      · cases hshape
      · cases hshape
        rfl
  · cases shape with
    | strings =>
      obtain ⟨entries, hentries⟩ := exists_strings hshape
      dsimp only at h
      rw [hentries] at h
      cases h
    | _ => cases h

theorem perform_value_of_error {fault : Fault} (h : v.presentation = .error fault) (src : Source)
    (s : Session Writer) : (value src v).perform s = (.error fault, s) := by
  rw [value, h]
  rfl

/-! ## Single calls -/

/-- Whether a session's document is inside its root element, with this many elements open, and its
policy never raises. -/
structure Open (label : String) (attributes : List Attribute) (depth : Nat) (s : Session Writer) :
    Prop where
  policy : s.policy.NeverRaises
  inside : ∃ g : Growing, g.Rooted rootName attributes ∧ g.outer.length = depth ∧
    Stands label g s.output

/-- How many elements are open behind a call. -/
def depthBehind (depth : Nat) : ReportCall → Nat
  | .enter _ => depth + 1
  | .leave _ => depth - 1
  | .value _ | .present .. => depth

/-- Whether a call succeeds, or rejects what it is given and leaves the session as it is. -/
def Settles (src : Source) (c : ReportCall) (s : Session Writer) : Prop :=
  ((c.act src).perform s).1 = .ok () ∨
    ∃ fault, (c.act src).perform s = (.error fault, s) ∧ fault.kind = .invariant

/-- What is known of a call from one state of its session. -/
structure Serves (src : Source) (c : ReportCall) (label : String) (attributes : List Attribute)
    (d : Nat) (s : Session Writer) : Prop where
  settles : Settles src c s
  behind : Open label attributes (depthBehind d c) ((c.act src).perform s).2

/-- A node that is entered opens an element, and one that is left closes one. -/
theorem depthBehind_add {c : ReportCall} (hleave : c.isLeave = true → 2 ≤ d) :
    depthBehind d c + (if c.isLeave then 1 else 0) = d + if c.isEnter then 1 else 0 := by
  cases c with
  | leave n => exact Nat.sub_add_cancel (Nat.le_of_succ_le (hleave rfl))
  | _ => rfl

theorem serves_of_does {c : ReportCall} {g' : Growing} {given : List Policy.Submission} {w : Writer}
    (hpolicy : s.policy.NeverRaises)
    (hdoes : DoesUnder s.policy (c.act src) s.output given (.ok ()) w) (hw : Stands label g' w)
    (hroot : g'.Rooted rootName attributes) (hdepth : g'.outer.length = depthBehind d c) :
    Serves src c label attributes d s := by
  obtain ⟨ds, hact⟩ := hdoes.perform hpolicy
  refine ⟨.inl (by rw [hact]), ?_⟩
  rw [hact]
  exact ⟨hpolicy.after given, g', hroot, hdepth, hw⟩

theorem serves_of_brings {c : ReportCall} {g' : Growing} {given : List Policy.Submission}
    (hpolicy : s.policy.NeverRaises) (hs : Stands label g s.output)
    (h : Brings (Stands label g) (c.act src) given () (Stands label g'))
    (hroot : g'.Rooted rootName attributes) (hdepth : g'.outer.length = depthBehind d c) :
    Serves src c label attributes d s := by
  obtain ⟨w, hdoes, hw⟩ := h s.output hs
  exact serves_of_does hpolicy (hdoes s.policy) hw hroot hdepth

theorem serves_of_rejected {c : ReportCall} {fault : Fault} (h : Open label attributes d s)
    (hact : (c.act src).perform s = (.error fault, s)) (hkind : fault.kind = .invariant)
    (hdepth : depthBehind d c = d) : Serves src c label attributes d s := by
  refine ⟨.inr ⟨fault, hact, hkind⟩, ?_⟩
  rw [hact, hdepth]
  exact h

/-- A value in any step is written as a whole or rejected. -/
theorem Open.present (h : Open label attributes d s) (hsrc : FailsSoftly src)
    (htakes : shape.Takes p) : Serves src (.present shape v p) label attributes d s := by
  by_cases hfits : Fits shape v
  · obtain ⟨hpolicy, g, hroot, hdepth, hs⟩ := h
    obtain ⟨given, tree, hbrings⟩ := brings_present label (outer_ne_nil_of_rooted hroot) hfits
      htakes (hsrc.valueRuns v)
    exact serves_of_brings hpolicy hs hbrings (hroot.add _) hdepth
  · exact serves_of_rejected h (present_misrouted hfits) rfl rfl

/-- A value in the step for its shape is written as a whole or rejected. -/
theorem Open.value (h : Open label attributes d s) (hsrc : FailsSoftly src) (htyped : v.Typed) :
    Serves src (.value v) label attributes d s := by
  cases hpresented : v.presentation with
  | ok presented =>
    obtain ⟨shape, p⟩ := presented
    have hact : (ReportCall.value v).act src = (ReportCall.present shape v p).act src := by
      change Report.value src v = Report.present src shape v p
      rw [Report.value, hpresented]
      rfl
    obtain ⟨hsettles, hbehind⟩ := h.present hsrc (htyped shape p hpresented).1
    unfold Settles at hsettles
    rw [← hact] at hsettles hbehind
    exact ⟨hsettles, hbehind⟩
  | error fault =>
    exact serves_of_rejected h (perform_value_of_error hpresented src s)
      (kind_of_presentation hpresented) rfl

/-- **What one call does**, whatever the calls before it were. -/
theorem Open.act (h : Open label attributes d s) (hsrc : FailsSoftly src) {c : ReportCall}
    (htyped : c.Typed) (hleave : c.isLeave = true → 2 ≤ d) :
    Serves src c label attributes d s := by
  cases c with
  | enter n =>
    obtain ⟨hpolicy, g, hroot, hdepth, hs⟩ := h
    obtain ⟨w, hdoes, hw⟩ :=
      nodeStart_survives (hsrc.timestamp n) (hsrc.nodeRuns n) hs s.policy
    exact serves_of_does hpolicy hdoes hw ((hroot.opened _ _).add _) (congrArg (· + 1) hdepth)
  | leave n =>
    obtain ⟨hpolicy, g, hroot, rfl, hs⟩ := h
    obtain ⟨g', name, as, ts, rfl, hroot', hlength⟩ := hroot.exists_opened (hleave rfl)
    exact serves_of_brings hpolicy hs (brings_endElement (outer_ne_nil_of_rooted hroot'))
      (hroot'.add _) (Nat.eq_sub_of_add_eq hlength)
  | value v => exact h.value hsrc htyped
  | present shape v p => exact h.present hsrc htyped

/-! ## Calls in any order -/

theorem afterEach_concat (src : Source) (s : Session Writer) (front : List ReportCall)
    (c : ReportCall) :
    afterEach src s (front ++ [c]) = ((c.act src).perform (afterEach src s front)).2 := by
  unfold afterEach
  rw [List.foldl_append]
  rfl

/-- A node is left only if one is open. -/
theorem two_le_of_leave {front : List ReportCall} {c : ReportCall}
    (hbelow : (front ++ [c]).countP (·.isLeave) ≤ (front ++ [c]).countP (·.isEnter))
    (hdepth : d + front.countP (·.isLeave) = 1 + front.countP (·.isEnter))
    (hleave : c.isLeave = true) : 2 ≤ d := by
  have henter : c.isEnter = false := by
    cases c <;> first | rfl | cases hleave
  rw [List.countP_append, List.countP_append, List.countP_singleton, List.countP_singleton, hleave,
    henter, if_pos rfl, if_neg Bool.false_ne_true] at hbelow
  omega

/-- **What calls do**, as long as no node is left that was not entered. -/
theorem open_afterEach (h : Open label attributes 1 s) (hsrc : FailsSoftly src)
    {calls : List ReportCall} (htyped : ∀ c ∈ calls, c.Typed) (hbelow : NeverBelow calls) :
    ∃ d, Open label attributes d (afterEach src s calls) ∧
      d + calls.countP (·.isLeave) = 1 + calls.countP (·.isEnter) := by
  induction calls using List.reverseRecOn with
  | nil => exact ⟨1, h, rfl⟩
  | append_singleton front c ih =>
    -- the condition on the calls speaks of their fronts, so the last call is split off
    obtain ⟨hfront, hlast⟩ := List.forall_mem_append.mp htyped
    obtain ⟨d, hopen, hdepth⟩ := ih hfront fun part hpart =>
      hbelow part (hpart.trans (List.prefix_append front [c]))
    have hleave := two_le_of_leave (hbelow _ (List.prefix_refl _)) hdepth
    have hbehind := depthBehind_add hleave
    refine ⟨depthBehind d c, ?_, ?_⟩
    · rw [afterEach_concat]
      exact (hopen.act hsrc (hlast c List.mem_cons_self) hleave).behind
    · rw [List.countP_append, List.countP_append, List.countP_singleton, List.countP_singleton]
      omega

/-- Whether a writer has written the document of a well formed element as a whole. -/
structure Complete (label : String) (root : Tree) (w : Writer) : Prop where
  tokens : w.tokens.toList = .declaration label :: root.tokens
  wellFormed : ∀ t ∈ root.tokens, t.WellFormed
  writes : label = "utf-8" → Writes root w.bytes

theorem Open.depth (h : Open label attributes d s) : s.output.depth = d := by
  obtain ⟨-, g, -, hdepth, hs⟩ := h
  rw [hs.depth, hdepth]

/-- What is open can be closed. -/
theorem Open.endDocument (h : Open label attributes d s) :
    ∃ inside w, s.output.call Writer.endDocument = (.ok (), w) ∧
      Complete label (.element rootName attributes inside) w := by
  obtain ⟨-, g, hroot, -, hs⟩ := h
  -- finishing closes whatever is open, however deep
  obtain ⟨inside, w, hcall, hdone⟩ := hs.endDocument hroot fun _ => trivial
  refine ⟨inside, _, hcall, hdone.tokens, hdone.wellFormed, ?_⟩
  rintro rfl
  have hwrote : Conversion.Wrote (Tree.document (.element rootName attributes inside))
      { w with stage := .finished } := ⟨hdone.label, hdone.tokens⟩
  exact ⟨trivial, hdone.wellFormed, hwrote.bytes⟩

/-- **Calls in any order.** Inside the open root of a document, on a device that takes everything,
with a policy that never raises and questions that fail softly, and as long as no node is left that
was not entered: each call succeeds, or rejects what it is given and leaves the session as it is;
behind each as many elements are open as nodes were entered and not left, and the root; and the
document can be finished, and then is that of a well formed element. -/
theorem afterEach_spec (hsrc : FailsSoftly src) (hpolicy : s.policy.NeverRaises) {ts : List Tree}
    (hs : Stands label ((Growing.opened {} rootName attributes).add ts) s.output)
    (calls : List ReportCall) (htyped : ∀ c ∈ calls, c.Typed) (hbelow : NeverBelow calls) :
    (∀ front c, front ++ [c] <+: calls → Settles src c (afterEach src s front)) ∧
    (∀ front, front <+: calls → (afterEach src s front).output.depth +
      front.countP (·.isLeave) = 1 + front.countP (·.isEnter)) ∧
    ∃ inside w, (afterEach src s calls).output.call Writer.endDocument = (.ok (), w) ∧
      Complete label (.element rootName attributes inside) w := by
  have hopen : Open label attributes 1 s := ⟨hpolicy, _, ⟨[], rfl⟩, rfl, hs⟩
  have hrun {front : List ReportCall} (hfront : front <+: calls) :=
    open_afterEach hopen hsrc (fun c hc => htyped c (hfront.subset hc))
      fun part hpart => hbelow part (hpart.trans hfront)
  refine ⟨fun front c hfront => ?_, fun front hfront => ?_, ?_⟩
  · obtain ⟨d, hd, hdepth⟩ := hrun ((List.prefix_append front [c]).trans hfront)
    have hc : c ∈ calls := hfront.subset (List.mem_append_right front List.mem_cons_self)
    exact (hd.act hsrc (htyped c hc) (two_le_of_leave (hbelow _ hfront) hdepth)).settles
  · obtain ⟨d, hd, hdepth⟩ := hrun hfront
    rwa [hd.depth]
  · obtain ⟨d, hd, -⟩ := hrun (List.prefix_refl calls)
    exact hd.endDocument

/-- Calls in no order of a walk: a node that is none of the hive's, values that have no shape or are
given to the wrong step or are not the hive's, a node that is left under another name, and two nodes
that stay open. -/
def scattered : List ReportCall :=
  [.enter { handle := 4128, name := some "root" }, .value undecodedNumber,
    .enter { handle := 0, name := none }, .present .qword strayValue (.number 1),
    .present .dword undecodedNumber (.number (-1)), .leave { handle := 1, name := none },
    .enter { handle := 4128, name := some "a\x00b" }]

theorem afterEach_spec_scattered :
    FailsSoftly blank ∧ opened.policy.NeverRaises ∧
      Stands "utf-8" ((Growing.opened {} rootName []).add []) opened.output ∧
      (∀ c ∈ scattered, c.Typed) ∧ NeverBelow scattered ∧
      (∃ fault, ((ReportCall.value undecodedNumber).act blank).perform
          (afterEach blank opened (scattered.take 1)) =
        (.error fault, afterEach blank opened (scattered.take 1)) ∧ fault.kind = .invariant) ∧
      (afterEach blank opened scattered).output.depth = 3 ∧
      ∃ w, (afterEach blank opened scattered).output.call Writer.endDocument = (.ok (), w) ∧
        IsDocument w.bytes := by
  have hsrc : FailsSoftly blank := failsSoftly_memory fun _ _ hfault => nomatch hfault
  have hpolicy : opened.policy.NeverRaises := Policy.neverRaises_standard
  have hs : Stands "utf-8" ((Growing.opened {} rootName []).add []) opened.output := by
    have hwell : ∀ t ∈ ((Growing.opened {} rootName []).add []).tokens, t.WellFormed := by
      rintro t ht
      obtain rfl := List.mem_singleton.mp ht
      exact ⟨by decide, nofun, List.nodup_nil⟩
    exact ⟨rfl, rfl, rfl, rfl, rfl, rfl, rfl, hwell, fun _ _ => trivial⟩
  have hshapeless : undecodedNumber.presentation =
      .error (.misrouted "classify_value" .dword false) := rfl
  have hvalue : undecodedNumber.Typed := by
    intro shape p hpresented
    rw [hshapeless] at hpresented
    cases hpresented
  have htyped : ∀ c ∈ scattered, c.Typed := by
    simp only [scattered, List.forall_mem_cons]
    exact ⟨trivial, hvalue, trivial, ⟨1, rfl⟩, ⟨-1, rfl⟩, trivial, trivial, List.forall_mem_nil _⟩
  have hinits : ∀ front ∈ scattered.inits,
      front.countP (·.isLeave) ≤ front.countP (·.isEnter) := by decide
  have hbelow : NeverBelow scattered := fun front hfront =>
    hinits front ((List.mem_inits front scattered).mpr hfront)
  obtain ⟨hsettles, hdepth, inside, w, hcall, hcomplete⟩ :=
    afterEach_spec hsrc hpolicy hs scattered htyped hbelow
  refine ⟨hsrc, hpolicy, hs, htyped, hbelow, ?_, ?_, w, hcall, _, hcomplete.writes rfl⟩
  · refine (hsettles (scattered.take 1) _ ⟨scattered.drop 2, rfl⟩).resolve_left fun hok => ?_
    change ((value blank undecodedNumber).perform _).1 = _ at hok
    rw [perform_value_of_error hshapeless] at hok
    cases hok
  · exact Nat.add_right_cancel (hdepth scattered (List.prefix_refl _))

end HiveDump.Report
