import HiveDump.Memory.Hive
import HiveDump.Proofs.Report.Started

/-!
# Values that a step rejects

Each step of a report that shows values looks at the value again before it writes anything. What it
looks at is the kind: a kind with a name has to be one that the classification of values (`Value.shape`)
gives to the step, decoded or not. Kinds without a name are shown by the step for other kinds, and
by the two steps for single texts. Only the steps for decoded texts look at the decode status, so a
value may be shown by a step that is not the one for its shape.

A step that has started the element of a value has not left the writer as it was, whatever fails
afterwards (`Report.starts_shown`).

Results:
* `fits_of_shape`: a value fits the step for its shape;
* `present_misrouted`: a value that does not fit is rejected before anything is done;
* **`present_rejects_iff`**: a step rejects exactly these values;
* `present_accepts_misfits`: not all of those whose shape is not the step's.
-/

namespace HiveDump

namespace Report

open HiveDump.Action

/-! ## Kinds that a step takes -/

/-- Whether the classification of values has the step for values of this kind, decoded or not. -/
def Suits (shape : Shape) (v : Value) : Prop :=
  ∃ decoded, ({ v with decoded := decoded } : Value).shape = .ok shape

/-- Whether a step shows values of a kind that has no name. -/
def TakesUnnamed (shape : Shape) : Prop :=
  shape = .string ∨ shape = .badString ∨ shape = .other

theorem suits_iff {shape : Shape} {v : Value} :
    Suits shape v ↔ Shape.ofKind v.kind = shape ∨ v.kind.isText = true ∧ .badString = shape := by
  constructor
  · rintro ⟨_ | _, h⟩
    · rw [Value.shape, if_neg (by simp)] at h
      split at h
      next htext => exact .inr ⟨htext, Except.ok.inj h⟩
      next => cases h
    · exact .inl (Except.ok.inj h)
  · rintro (h | ⟨htext, h⟩)
    · exact ⟨true, congrArg Except.ok h⟩
    · refine ⟨false, ?_⟩
      rw [Value.shape, if_neg (by simp), if_pos htext, h]

/-- A step has a type for a kind with a name if the classification has the step for it. -/
theorem typeOf_eq_none_iff {shape : Shape} {v : Value} :
    typeOf shape v.kind = none ↔
      if v.kind.isNamed then ¬Suits shape v else ¬TakesUnnamed shape := by
  rw [suits_iff, TakesUnnamed]
  cases v.kind <;> cases shape <;>
    simp [typeOf, textType?, badTextType?, otherType?, Shape.ofKind, Kind.isNamed, Kind.isText]

/-! ## Rejected values -/

variable {src : Source} {shape : Shape} {v : Value} {p : Payload} {s : Session Writer}

/-- Whether a step rejects a value as one that is not for it, and leaves the writer and what was
written as they were. -/
def Rejects (src : Source) (shape : Shape) (v : Value) (p : Payload) (s : Session Writer) : Prop :=
  ∃ fault t, (present src shape v p).perform s = (.error fault, t) ∧ fault.kind = .invariant ∧
    t.output = s.output

/-- Whether a value fits a step: the classification has the step for its kind, or the kind has no
name and the step shows such; and where the step needs a decoded value it is one. -/
def Fits (shape : Shape) (v : Value) : Prop :=
  (if v.kind.isNamed then Suits shape v else TakesUnnamed shape) ∧
    (shape = .string ∨ shape = .strings → v.decoded = true)

theorem needsDecoded_iff : needsDecoded shape = true ↔ shape = .string ∨ shape = .strings := by
  cases shape <;> simp [needsDecoded]

/-- A value fits the step for its shape. -/
theorem fits_of_shape (h : v.shape = .ok shape) : Fits shape v := by
  have hsuits : Suits shape v := ⟨v.decoded, h⟩
  refine ⟨?_, fun hneeds => ?_⟩
  · split
    · exact hsuits
    next hnamed =>
      rw [suits_iff] at hsuits
      cases hkind : v.kind with
      | unnamed id =>
        rw [hkind] at hsuits
        rcases hsuits with hsuits | ⟨htext, -⟩
        · exact .inr (.inr hsuits.symm)
        · cases htext
      | _ => simp [hkind, Kind.isNamed] at hnamed
  · cases hdecoded : v.decoded with
    | true => rfl
    | false =>
      rw [Value.shape, hdecoded] at h
      cases htext : v.kind.isText with
      | true =>
        rw [htext] at h
        obtain rfl := Except.ok.inj h
        rcases hneeds with hneeds | hneeds <;> cases hneeds
      | false =>
        rw [htext] at h
        cases h

/-- What a step makes of the kind and decode status of a value. -/
theorem valueType_cases (shape : Shape) (v : Value) :
    (Fits shape v ∧ ∃ type, valueType shape v = .ok type) ∨
      ¬Fits shape v ∧ valueType shape v = .error (.misrouted shape.handler v.kind v.decoded) := by
  have hnone : typeOf shape v.kind = none ↔ _ := typeOf_eq_none_iff
  unfold valueType Fits
  rw [← needsDecoded_iff]
  cases htype : typeOf shape v.kind with
  | none =>
    have hkind := hnone.mp htype
    refine .inr ⟨fun hfits => ?_, rfl⟩
    split at hkind
    next hnamed => exact hkind (by simpa [hnamed] using hfits.1)
    next hnamed => exact hkind (by simpa [hnamed] using hfits.1)
  | some type =>
    have hkind : if v.kind.isNamed then Suits shape v else TakesUnnamed shape := by
      rw [htype] at hnone
      split
      next hnamed => simpa [hnamed] using hnone
      next hnamed => simpa [hnamed] using hnone
    cases hneeds : needsDecoded shape <;> cases hdecoded : v.decoded <;> simp [hkind]

/-- **A value that does not fit is rejected** before anything is done. -/
theorem present_misrouted (h : ¬Fits shape v) :
    (present src shape v p).perform s =
      (.error (.misrouted shape.handler v.kind v.decoded), s) := by
  obtain ⟨hfits, -⟩ | ⟨-, htype⟩ := valueType_cases shape v
  · exact absurd hfits h
  · rw [present, htype]
    rfl

/-- What fails behind the start tag of a value has left it there. -/
theorem output_ne_of_fits (h : Fits shape v)
    (hwrite : ∀ fault, ((present src shape v p).perform s).1 ≠ .error (.write fault)) :
    ((present src shape v p).perform s).2.output ≠ s.output := by
  obtain ⟨-, type, htype⟩ | ⟨hmisfit, -⟩ := valueType_cases shape v
  · have hpresent : present src shape v p = (do
        valueStart v type (announced shape v)
        payload shape v p
        valueEnd src v) := by
      rw [present, htype]
      rfl
    rw [hpresent] at hwrite ⊢
    obtain ⟨_, ⟨more, -, rfl⟩, hstarts⟩ := starts_shown src shape v p type s hwrite
    intro hsame
    have hstarted := hstarts.started
    rw [hsame] at hstarted
    exact List.cons_ne_nil _ _ (List.self_eq_append_right.mp hstarted)
  · exact absurd h hmisfit

/-- **A step rejects exactly the values that do not fit it.** -/
theorem present_rejects_iff (src : Source) (shape : Shape) (v : Value) (p : Payload)
    (s : Session Writer) : Rejects src shape v p s ↔ ¬Fits shape v := by
  constructor
  · rintro ⟨fault, t, hperform, hkind, houtput⟩ hfits
    have hwrite : ∀ other, ((present src shape v p).perform s).1 ≠ .error (.write other) := by
      intro other hother
      rw [hperform] at hother
      rw [Except.error.inj hother] at hkind
      cases other <;> cases hkind
    have hne := output_ne_of_fits hfits hwrite
    rw [hperform] at hne
    exact hne houtput
  · intro hmisfit
    exact ⟨_, s, present_misrouted hmisfit, rfl, rfl⟩

/-- A hive with nothing but its root. -/
def blank : Source :=
  (MemoryHive.create { name := some "root" } none true).source

/-- A session whose document has its root open. -/
def opened : Session Writer where
  output := {
    label := "utf-8", stage := .writing, tokens := #[.declaration "utf-8"],
    pending := some { name := "hive" } }
  policy := .standard

/-- A number that is marked as one that did not decode: no shape is for it. -/
def undecodedNumber : Value where
  handle := 0x2000
  key := some "n"
  kind := .dword
  length := 4
  decoded := false

/-- A value whose kind has no name: its shape is not that of texts. -/
def strayValue : Value where
  handle := 0x2000
  key := some "n"
  kind := .unnamed 0x1234
  length := 4

/-- **Not every value whose shape is not the step's is rejected**: the step for numbers shows one
that did not decode, and the step for texts shows a kind without a name. -/
theorem present_accepts_misfits :
    undecodedNumber.shape ≠ .ok .dword ∧
      ¬Rejects blank .dword undecodedNumber (.number 1) opened ∧
      strayValue.shape ≠ .ok .string ∧ ¬Rejects blank .string strayValue (.text "a") opened := by
  have hnumber : ((present blank .dword undecodedNumber (.number 1)).perform opened).1.toBool :=
    by decide +kernel
  have htext : ((present blank .string strayValue (.text "a")).perform opened).1.toBool :=
    by decide +kernel
  refine ⟨nofun, ?_, nofun, ?_⟩
  · rintro ⟨fault, t, hperform, -⟩
    rw [hperform] at hnumber
    cases hnumber
  · rintro ⟨fault, t, hperform, -⟩
    rw [hperform] at htext
    cases htext

end Report

end HiveDump
