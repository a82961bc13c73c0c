import HiveDump.Proofs.Markup.Stages
import Mathlib.Data.List.DropRight

/-!
# Faults of writers that are no faults of writing

A call to a writer fails with a fault of writing, in every encoding, on every device and behind any
calls, but for one case: a document is to be started under a label that no encoding has. This is
found out when the writer is used for the first time, and again when it is used for the first time
after it was let go.

Results:
* `label_afterCalls`, `Unlabelled.afterCalls`: what is known of the writer behind any calls;
* **`escapes_iff`**: the calls that fail with any other fault;
* `escapes_latin`: one of them.
-/

namespace HiveDump.Writer

/-- The calls behind the last one that lets the writer go. -/
def sinceRelease (calls : List Call) : List Call :=
  calls.rtakeWhile (· ≠ .release)

theorem sinceRelease_release (calls : List Call) : sinceRelease (calls ++ [.release]) = [] :=
  List.rtakeWhile_concat_neg _ _ _ (by simp)

theorem sinceRelease_concat (calls : List Call) {c : Call} (hc : c ≠ .release) :
    sinceRelease (calls ++ [c]) = sinceRelease calls ++ [c] :=
  List.rtakeWhile_concat_pos _ _ _ (by simp [hc])

variable {w : Writer}

theorem afterCalls_concat (w : Writer) (calls : List Call) (c : Call) :
    w.afterCalls (calls ++ [c]) = ((w.afterCalls calls).call c.act).2 := by
  simp [afterCalls]

/-! ## The label -/

theorem label_call (w : Writer) (c : Call) : (w.call c.act).2.label = w.label := by
  have hmoves := w.moves c
  generalize (w.call c.act).1 = result, (w.call c.act).2 = w' at hmoves ⊢
  cases hmoves with
  | start h =>
    cases h with
    | refused => rfl
    | unknown => rfl
    | mute _ _ _ _ hlabel => exact hlabel
    | declared _ _ _ hlabel => exact hlabel
  | finish h =>
    cases h with
    | refused _ hlevel => exact hlevel.label
    | finished _ _ hlevel => exact hlevel.label
  | letGo hlabel => exact hlabel
  | quiet _ _ hlevel => exact hlevel.label

/-- No call changes the label. -/
theorem label_afterCalls (w : Writer) (calls : List Call) :
    (w.afterCalls calls).label = w.label := by
  induction calls generalizing w with
  | nil => rfl
  | cons c calls ih => exact (ih (w.call c.act).2).trans (label_call w c)

/-! ## Labels that no encoding has -/

/-- Whether a writer without an encoding has come as far as these calls behind its last release
say. -/
structure Unlabelled (w : Writer) (since : List Call) : Prop where
  legal : Markup.legal w.label = true
  unknown : Charset.ofLabel? w.label = none
  untried : .startDocument ∉ since → w.stage = .idle
  tried : .startDocument ∈ since → w.stage = .unwritable

/-- Such a writer never has a document. -/
theorem Unlabelled.stage {since : List Call} (h : w.Unlabelled since) :
    w.stage = .idle ∨ w.stage = .unwritable := by
  by_cases hsince : .startDocument ∈ since
  · exact .inr (h.tried hsince)
  · exact .inl (h.untried hsince)

/-- A call that neither starts a document nor lets the writer go changes nothing of this. -/
theorem Unlabelled.other {w' : Writer} {calls : List Call} {c : Call}
    (h : w.Unlabelled (sinceRelease calls)) (hstart : c ≠ .startDocument) (hrelease : c ≠ .release)
    (hlevel : Level w w') : w'.Unlabelled (sinceRelease (calls ++ [c])) := by
  have hsince : .startDocument ∈ sinceRelease (calls ++ [c]) ↔
      .startDocument ∈ sinceRelease calls := by
    rw [sinceRelease_concat calls hrelease, List.mem_append, List.mem_singleton]
    exact or_iff_left hstart.symm
  refine ⟨hlevel.label ▸ h.legal, hlevel.label ▸ h.unknown, fun hout => ?_, fun hin => ?_⟩
  · exact hlevel.stage.trans (h.untried (mt hsince.mpr hout))
  · exact hlevel.stage.trans (h.tried (hsince.mp hin))

theorem Unlabelled.call {calls : List Call} (h : w.Unlabelled (sinceRelease calls)) (c : Call) :
    (w.call c.act).2.Unlabelled (sinceRelease (calls ++ [c])) := by
  have hmoves := w.moves c
  generalize (w.call c.act).1 = result, (w.call c.act).2 = w' at hmoves ⊢
  cases hmoves with
  | start hstart =>
    have hsince : .startDocument ∈ sinceRelease (calls ++ [.startDocument]) := by
      rw [sinceRelease_concat calls (by decide)]
      exact List.mem_append_right _ (List.mem_singleton.mpr rfl)
    cases hstart with
    | refused _ hillegal =>
      refine ⟨h.legal, h.unknown, fun hout => absurd hsince hout, fun _ => ?_⟩
      refine h.stage.resolve_left fun hidle => ?_
      cases h.legal.symm.trans (hillegal hidle)
    | unknown => exact ⟨h.legal, h.unknown, fun hout => absurd hsince hout, fun _ => rfl⟩
    | mute _ hknown => exact absurd h.unknown hknown
    | declared _ hknown => exact absurd h.unknown hknown
  | finish hend =>
    cases hend with
    | refused _ hlevel => exact h.other (by decide) (by decide) hlevel
    | finished hs =>
      rcases h.stage with hidle | hunwritable
      · cases hs.symm.trans hidle
      · cases hs.symm.trans hunwritable
  | letGo hlabel _ hs =>
    rw [sinceRelease_release]
    refine ⟨hlabel ▸ h.legal, hlabel ▸ h.unknown, fun _ => ?_, nofun⟩
    rw [hs, if_neg]
    rcases h.stage with hidle | hunwritable <;> simp [*]
  | quiet hstart hrelease hlevel => exact h.other hstart hrelease hlevel

/-- Without an encoding a document is at most tried to be started. -/
theorem unlabelled_afterCalls (device : Device) {label : String}
    (hlegal : Markup.legal label = true) (hunknown : Charset.ofLabel? label = none)
    (calls : List Call) :
    (({ label := label, device := device } : Writer).afterCalls calls).Unlabelled
      (sinceRelease calls) := by
  induction calls using List.reverseRecOn with
  | nil => exact ⟨hlegal, hunknown, fun _ => rfl, nofun⟩
  | append_singleton calls c ih =>
    rw [afterCalls_concat]
    exact ih.call c

/-- **A call fails with a fault of writing or not at all**, unless it starts a document under a
label that no encoding has, and is the first to do so since the writer was last let go. -/
theorem escapes_iff (label : String) (device : Device) (calls : List Call) (c : Call)
    (fault : WriteFault) :
    let w := ({ label := label, device := device } : Writer).afterCalls calls
    ((w.call c.act).1 = .error fault ∧ (Fault.write fault).kind ≠ .writing) ↔
      c = .startDocument ∧ Markup.legal label = true ∧ Charset.ofLabel? label = none ∧
        .startDocument ∉ sinceRelease calls ∧ fault = .unknownEncoding label := by
  intro w
  have hlabel : w.label = label := label_afterCalls _ calls
  constructor
  · rintro ⟨hcall, hkind⟩
    have hmoves := w.moves c
    rw [hcall] at hmoves
    generalize (w.call c.act).2 = w' at hmoves
    cases hmoves with
    | start hstart =>
      cases hstart with
      | refused hwriting => exact absurd hwriting hkind
      | unknown hidle hlegal hunknown =>
        rw [hlabel] at hlegal hunknown ⊢
        refine ⟨rfl, hlegal, hunknown, fun hsince => ?_, rfl⟩
        have hstage := (unlabelled_afterCalls device hlegal hunknown calls).tried hsince
        cases hidle.symm.trans hstage
      | mute _ _ hwriting => exact absurd hwriting hkind
    | finish hend =>
      cases hend with
      | refused hwriting => exact absurd hwriting hkind
      | finished _ hwriting => exact absurd (hwriting fault rfl) hkind
    | quiet _ _ _ hwriting => exact absurd (hwriting fault rfl) hkind
  · rintro ⟨rfl, hlegal, hunknown, hsince, rfl⟩
    have hidle : w.stage = .idle :=
      (unlabelled_afterCalls device hlegal hunknown calls).untried hsince
    refine ⟨?_, nofun⟩
    change (w.call startDocument).1 = _
    simp [startDocument, call_bind, hidle, hlabel, hlegal, hunknown]

/-- A label of an encoding of text under which no document can be written. -/
theorem escapes_latin :
    (({ label := "latin-1" } : Writer).call startDocument).1 =
        .error (.unknownEncoding "latin-1") ∧
      (Fault.write (.unknownEncoding "latin-1")).kind ≠ .writing := by
  decide +kernel

end HiveDump.Writer
