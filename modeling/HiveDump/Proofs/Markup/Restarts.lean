import HiveDump.Proofs.Markup.Stages

/-!
# How often a writer starts a document

A writer that is let go before its document is finished can start another one, and writes it behind
the part of the first that is there already. So it starts at most one document more than it is made
to abandon, and it declares no more than it starts. Once a document is finished, nothing starts
again; and as long as nothing starts again, a finished or abandoned document stays as it is.

Results:
* `begins_step`, `declarations_step`, `mute_step`: what one call adds;
* **`starts_le`**: the bound, over calls in any order;
* `starts_again`: a writer that starts two documents.
-/

namespace HiveDump.Writer

/-- Whether a call starts a document, and succeeds. -/
def begins (w : Writer) (c : Call) : Bool :=
  c = .startDocument && (w.call c.act).1.isOk

/-- Whether a call lets go of a document that is being written. -/
def abandons (w : Writer) (c : Call) : Bool :=
  c = .release && w.stage = .writing

/-- How many of the calls in a row are of a kind. -/
def count (kind : Writer → Call → Bool) (w : Writer) : List Call → Nat
  | [] => 0
  | c :: calls => (kind w c).toNat + (w.call c.act).2.count kind calls

/-- Whether a document is being written, or was finished. -/
def occupied (w : Writer) : Bool :=
  w.stage = .writing || w.stage = .finished

variable {w : Writer}

/-- A document is started where none is, and is there until it is abandoned. -/
theorem begins_step (w : Writer) (c : Call) :
    (w.begins c).toNat + w.occupied.toNat ≤
      (w.abandons c).toNat + (w.call c.act).2.occupied.toNat := by
  unfold begins
  have hmoves := w.moves c
  generalize (w.call c.act).1 = result, (w.call c.act).2 = w' at hmoves ⊢
  cases hmoves with
  | start h =>
    cases h with
    | refused => simp [Except.isOk, Except.toBool]
    | unknown hidle => simp [occupied, hidle, Except.isOk, Except.toBool]
    | mute hidle => simp [occupied, hidle, Except.isOk, Except.toBool]
    | declared hidle _ hs => simp [occupied, hidle, hs, Except.isOk, Except.toBool, abandons]
  | finish h =>
    cases h with
    | refused _ hlevel => simp [occupied, hlevel.stage]
    | finished hs => simp [occupied, hs]
  | letGo _ _ hs =>
    cases hstage : w.stage <;> simp [occupied, abandons, hs, hstage]
  | quiet hstart _ hlevel => simp [occupied, hstart, hlevel.stage]

/-- What is declared was started. -/
theorem declarations_step (w : Writer) (c : Call) :
    (w.call c.act).2.declarations ≤ w.declarations + (w.begins c).toNat := by
  unfold begins
  have hmoves := w.moves c
  generalize (w.call c.act).1 = result, (w.call c.act).2 = w' at hmoves ⊢
  cases hmoves with
  | start h =>
    cases h with
    | refused => exact Nat.le_add_right _ _
    | unknown => exact Nat.le_add_right _ _
    | mute _ _ _ _ _ htokens => simp [declarations, htokens]
    | declared _ _ _ _ hdeclared => simpa [Except.isOk, Except.toBool] using hdeclared
  | finish h =>
    cases h with
    | refused _ hlevel => simp [hlevel.declarations]
    | finished _ _ hlevel =>
      have hsame := hlevel.declarations
      simp only [declarations] at hsame ⊢
      simp [hsame]
  | letGo _ htokens => simp [declarations, htokens]
  | quiet _ _ hlevel => simp [hlevel.declarations]

/-- A writer without a document that can grow writes nothing before it starts one. -/
theorem mute_step {c : Call} (h : w.Mute) (hc : w.begins c = false) :
    (w.call c.act).2.Mute ∧ (w.call c.act).2.tokens = w.tokens := by
  unfold begins at hc
  have hmoves := w.moves c
  generalize (w.call c.act).1 = result, (w.call c.act).2 = w' at hmoves hc ⊢
  cases hmoves with
  | start hstart =>
    cases hstart with
    | refused => exact ⟨h, rfl⟩
    | unknown => exact ⟨nofun, rfl⟩
    | mute _ _ _ _ _ htokens hmute => exact ⟨hmute, htokens⟩
    | declared => cases hc
  | finish hend =>
    cases hend with
    | refused _ hlevel => exact hlevel.mute h
    | finished _ _ hlevel => exact ⟨nofun, (hlevel.mute h).2⟩
  | letGo _ htokens hs =>
    refine ⟨fun hwriting => ?_, htokens⟩
    rw [hs] at hwriting
    split at hwriting <;> cases hwriting
  | quiet _ _ hlevel => exact hlevel.mute h

/-- A finished document stays finished, and nothing is started. -/
theorem finished_step (hs : w.stage = .finished) (c : Call) :
    (w.call c.act).2.stage = .finished ∧ w.begins c = false := by
  unfold begins
  have hmoves := w.moves c
  generalize (w.call c.act).1 = result, (w.call c.act).2 = w' at hmoves ⊢
  cases hmoves with
  | start h =>
    cases h with
    | refused => exact ⟨hs, rfl⟩
    | unknown hidle => cases hs.symm.trans hidle
    | mute hidle => cases hs.symm.trans hidle
    | declared hidle => cases hs.symm.trans hidle
  | finish h =>
    cases h with
    | refused _ hlevel => exact ⟨hlevel.stage.trans hs, rfl⟩
    | finished => exact ⟨rfl, rfl⟩
  | letGo _ _ hstage => exact ⟨by rw [hstage, if_pos hs], rfl⟩
  | quiet hstart _ hlevel => exact ⟨hlevel.stage.trans hs, by simp [hstart]⟩

/-! ## Calls in a row -/

theorem begins_calls (w : Writer) (calls : List Call) :
    w.count begins calls + w.occupied.toNat ≤
      w.count abandons calls + (w.afterCalls calls).occupied.toNat := by
  induction calls generalizing w with
  | nil => simp [count, afterCalls]
  | cons c calls ih =>
    have hstep := begins_step w c
    have hrest := ih (w.call c.act).2
    simp only [count, afterCalls, List.foldl_cons] at hrest ⊢
    omega

theorem declarations_calls (w : Writer) (calls : List Call) :
    (w.afterCalls calls).declarations ≤ w.declarations + w.count begins calls := by
  induction calls generalizing w with
  | nil => exact Nat.le_refl _
  | cons c calls ih =>
    have hstep := declarations_step w c
    have hrest := ih (w.call c.act).2
    simp only [count, afterCalls, List.foldl_cons] at hrest ⊢
    omega

theorem mute_calls {calls : List Call} (h : w.Mute) (hcalls : w.count begins calls = 0) :
    (w.afterCalls calls).tokens = w.tokens := by
  induction calls generalizing w with
  | nil => rfl
  | cons c calls ih =>
    obtain ⟨hc, hrest⟩ := Nat.add_eq_zero_iff.mp hcalls
    obtain ⟨hmute, htokens⟩ := mute_step h (Bool.toNat_eq_zero.mp hc)
    exact (ih hmute hrest).trans htokens

theorem finished_calls (hs : w.stage = .finished) (calls : List Call) :
    w.count begins calls = 0 := by
  induction calls generalizing w with
  | nil => rfl
  | cons c calls ih =>
    obtain ⟨hstage, hc⟩ := finished_step hs c
    rw [count, hc, ih hstage]
    rfl

/-- **A writer starts at most one document more than it abandons**, whatever calls are made to it
and whatever its encoding and its device; and every declaration it writes belongs to a start. Once
its document is finished it starts none. Unless it starts another one, what it has written of a
finished or abandoned document stays as it is. -/
theorem starts_le (label : String) (device : Device) (calls more : List Call) :
    let w : Writer := { label := label, device := device }
    let w' := w.afterCalls calls
    w.count begins calls ≤ w.count abandons calls + 1 ∧
      w'.declarations ≤ w.count begins calls ∧
      ((w'.call endDocument).1 = .ok () → (w'.call endDocument).2.stage = .finished) ∧
      (w'.stage = .finished → w'.count begins more = 0) ∧
      (w'.stage ≠ .writing → w'.count begins more = 0 →
        (w'.afterCalls more).tokens = w'.tokens) := by
  intro w w'
  refine ⟨?_, ?_, fun hended => ?_, fun hs => finished_calls hs more, fun hs hmore => ?_⟩
  · have hcalls := begins_calls w calls
    have hone := (w.afterCalls calls).occupied.toNat_le
    omega
  · have hblank : w.declarations = 0 := rfl
    have hcalls := declarations_calls w calls
    rwa [hblank, Nat.zero_add] at hcalls
  · have hending := ending w'
    rw [hended] at hending
    generalize (w'.call endDocument).2 = w'' at hending ⊢
    cases hending
    rfl
  · exact mute_calls (fun hwriting => absurd hwriting hs) hmore

/-- A writer that is let go in between starts twice, and writes two declarations. -/
theorem starts_again :
    ({ label := "utf-8" } : Writer).count begins [.startDocument, .release, .startDocument] = 2 ∧
      (({ label := "utf-8" } : Writer).afterCalls
        [.startDocument, .release, .startDocument]).tokens.toList =
          [.declaration "utf-8", .declaration "utf-8"] := by
  decide +kernel

end HiveDump.Writer
