import HiveDump.Proofs.Markup.OpenElements

/-!
# Bytes of documents that grow

In every encoding the bytes of a document are never taken back: what was written of a part stands in
front of what is written of the whole. Where the bytes of a character depend on what is in front of
it, a text is written by a pass that only adds to its output; what such a pass holds back at the end
of a part is not written.

Results:
* **`Charset.encode_prefix`**: texts;
* **`Markup.encode_prefix`**: sequences of tokens, also where a new document starts afresh;
* **`Writer.Continues.bytes`**: documents.
-/

namespace HiveDump

/-! ## Texts -/

section Growing

variable {σ γ : Type} {put : Array UInt8 × σ → γ → Array UInt8 × σ}

/-- A pass over a text that only adds to its output. -/
theorem prefix_foldl (h : ∀ state c, state.1.toList <+: (put state c).1.toList) (cs : List γ)
    (state : Array UInt8 × σ) : state.1.toList <+: (cs.foldl put state).1.toList := by
  induction cs generalizing state with
  | nil => exact List.prefix_refl _
  | cons c cs ih => exact (h state c).trans (ih (put state c))

/-- What it adds for a part stands in front of what it adds for the whole. -/
theorem foldl_prefix (h : ∀ state c, state.1.toList <+: (put state c).1.toList)
    (state : Array UInt8 × σ) (s t : List γ) :
    (s.foldl put state).1.toList <+: ((s ++ t).foldl put state).1.toList := by
  rw [List.foldl_append]
  exact prefix_foldl h t _

end Growing

theorem prefix_toList_append (out : Array UInt8) (b : Bytes) :
    out.toList <+: (out ++ b).toList := by
  rw [Array.toList_appendList]
  exact List.prefix_append _ _

theorem Eastern.prefix_putPaired (one : Char → Bytes) (state : Array UInt8 × Option Char)
    (c : Char) : state.1.toList <+: (putPaired one state c).1.toList := by
  have hnext (out : Array UInt8) : out.toList <+:
      (if isHeldBack c then (out, some c) else (out ++ one c, none)).1.toList := by
    split
    · exact List.prefix_refl _
    · exact prefix_toList_append out _
  rcases state with ⟨out, _ | base⟩
  · exact hnext out
  · unfold putPaired
    dsimp only
    cases hkscsPair? base c with
    | some b => exact prefix_toList_append out b
    | none => exact (prefix_toList_append out _).trans (hnext _)

/-- One character of a text in an encoding that switches between sets. -/
theorem Switching.prefix_put (e : Switching) (state : Array UInt8 × Mode) (c : Char) :
    state.1.toList <+:
      (((e.put? state.2 c).map fun (b, m) => (state.1 ++ b, m)).getD state).1.toList := by
  cases e.put? state.2 c with
  | none => exact List.prefix_refl _
  | some put => exact prefix_toList_append _ _

theorem Switching.encode_prefix (e : Switching) (instead : Char → List Char) (s t : List Char) :
    e.encode instead s <+: e.encode instead (s ++ t) := by
  refine foldl_prefix (fun state c => ?_) _ s t
  dsimp only
  cases e.put? state.2 c with
  | none => exact prefix_foldl (fun state d => e.prefix_put state d) _ state
  | some put => exact prefix_toList_append _ _

theorem Utf7.encode_prefix (s t : List Char) : Utf7.encode s <+: Utf7.encode (s ++ t) :=
  foldl_prefix (fun _ _ => prefix_toList_append _ _) _ s t

/-- **The bytes of a text start with those of its parts**, in every encoding. -/
theorem Charset.encode_prefix (cs : Charset) (s t : List Char) :
    cs.encode s <+: cs.encode (s ++ t) := by
  cases h : cs.isContextual with
  | false =>
    rw [encode_append h]
    exact List.prefix_append _ _
  | true =>
    unfold isContextual at h
    split at h
    case h_1 => exact foldl_prefix (Eastern.prefix_putPaired _) _ s t
    case h_2 e => exact e.encode_prefix _ s t
    case h_3 => exact Utf7.encode_prefix s t
    case h_4 => cases h

/-! ## Documents -/

namespace Markup

section Runs

variable {γ : Type} {follows : γ → γ → Bool} {write : List γ → Bytes}

theorem flatMap_reverse_cons (run : List γ) (runs : List (List γ)) :
    (run :: runs).reverse.flatMap write = runs.reverse.flatMap write ++ write run := by
  rw [List.reverse_cons, List.flatMap_append, List.flatMap_singleton]

theorem splitBy_loop_cons (b : γ) (as : List γ) (a : γ) (run : List γ) (runs : List (List γ)) :
    List.splitBy.loop follows (b :: as) a run runs =
      match follows a b with
      | true => List.splitBy.loop follows as b (a :: run) runs
      | false => List.splitBy.loop follows as b [] ((a :: run).reverse :: runs) :=
  rfl

/-- The runs that are complete, and the one that is being read, stand in front of all runs. -/
theorem prefix_runs (hwrite : ∀ s t, write s <+: write (s ++ t)) (as : List γ) (a : γ)
    (run : List γ) (runs : List (List γ)) :
    runs.reverse.flatMap write ++ write (a :: run).reverse <+:
      (List.splitBy.loop follows as a run runs).flatMap write := by
  induction as generalizing a run runs with
  | nil =>
    rw [← flatMap_reverse_cons]
    exact List.prefix_refl _
  | cons b as ih =>
    rw [splitBy_loop_cons]
    cases follows a b with
    | true =>
      have hrun : write (a :: run).reverse <+: write (b :: a :: run).reverse := by
        have hmore := hwrite (a :: run).reverse [b]
        rwa [← List.reverse_cons] at hmore
      exact ((List.prefix_append_right_inj _).mpr hrun).trans (ih b (a :: run) runs)
    | false =>
      have hbehind := ih b [] ((a :: run).reverse :: runs)
      rw [flatMap_reverse_cons] at hbehind
      exact (List.prefix_append _ _).trans hbehind

theorem loop_prefix (hwrite : ∀ s t, write s <+: write (s ++ t)) (as t : List γ) (a : γ)
    (run : List γ) (runs : List (List γ)) :
    (List.splitBy.loop follows as a run runs).flatMap write <+:
      (List.splitBy.loop follows (as ++ t) a run runs).flatMap write := by
  induction as generalizing a run runs with
  | nil =>
    have hruns := @prefix_runs _ follows _ hwrite t a run runs
    rw [← flatMap_reverse_cons] at hruns
    exact hruns
  | cons b as ih =>
    rw [List.cons_append, splitBy_loop_cons, splitBy_loop_cons]
    cases follows a b with
    | true => exact ih b (a :: run) runs
    | false => exact ih b [] _

/-- If every run of a list is written so that more of it only adds to its bytes, the runs of a part
stand in front of those of the whole. -/
theorem splitBy_prefix (hwrite : ∀ s t, write s <+: write (s ++ t)) (s t : List γ) :
    (s.splitBy follows).flatMap write <+: ((s ++ t).splitBy follows).flatMap write := by
  cases s with
  | nil => exact List.nil_prefix
  | cons a as => exact loop_prefix hwrite as t a [] []

end Runs

/-- **The bytes of a sequence of tokens start with those of its parts.** -/
theorem encode_prefix (cs : Charset) (s t : List Token) : encode cs s <+: encode cs (s ++ t) := by
  cases h : cs.isContextual with
  | false =>
    rw [encode_append h]
    exact List.prefix_append _ _
  | true =>
    unfold encode documents
    rw [if_pos h, if_pos h]
    refine splitBy_prefix (fun d d' => ?_) s t
    rw [render_append]
    exact cs.encode_prefix _ _

end Markup

theorem Writer.bytes_eq (w : Writer) : w.bytes = w.encode w.tokens.toList := by
  unfold bytes bytes?
  split
  · next hempty =>
    rw [Array.isEmpty_iff.mp hempty, encode]
    cases Charset.ofLabel? w.label with
    | none => rfl
    | some cs =>
      change [] = Markup.encode cs []
      unfold Markup.encode
      split <;> rfl
  · rfl

/-- **The bytes of a document that goes on** start with what was written before. -/
theorem Writer.Continues.bytes {w w' : Writer} (h : Continues w w') : w.bytes <+: w'.bytes := by
  obtain ⟨more, hmore⟩ := h.tokens
  rw [bytes_eq, bytes_eq, ← hmore, encode, encode, h.label]
  cases Charset.ofLabel? w.label with
  | none => exact List.prefix_refl _
  | some cs => exact Markup.encode_prefix cs _ more

end HiveDump
