import HiveDump.Image.Item
import HiveDump.Proofs.Report.SafeAttributes

/-!
# Which names a report tells apart

A record stores a name in one byte a character or in UTF-16, and not every name decodes. A name that
does is shown up to its first zero character; one that does not is shown with its stored bytes, in
base64. So texts that differ only behind a zero character look the same, and so do a text that is
shown in base64 and stored bytes that happen to be its UTF-8. No other two names do.

Results:
* `perform_nameAttribute`: a name is always shown, whatever the policy;
* `textShown_eq_iff`, `textShown_eq_base64Shown_iff`: when texts and bytes look the same;
* **`nameAttribute_alike_iff`**: when names do.
-/

namespace HiveDump

open Report

/-- A name as a record stores it. -/
structure StoredName where
  oneByte : Bool
  stored : Bytes

namespace StoredName

/-- The text of a name, if it decodes. -/
def text? (a : StoredName) : Option String :=
  decodeStoredName a.oneByte a.stored

/-- Whether two names look the same in a report. -/
def Alike (a b : StoredName) : Prop :=
  match a.text?, b.text? with
  | some s, some t => untilNul s = untilNul t
  | none, none => a.stored = b.stored
  | some s, none =>
    ¬ (AttributeData.text s).IsPlain ∧ (AttributeData.text s).terminated = b.stored
  | none, some t =>
    ¬ (AttributeData.text t).IsPlain ∧ (AttributeData.text t).terminated = a.stored

/-- The attributes that show a name. -/
def marks (n : String) (a : StoredName) : List Attribute :=
  match a.text? with
  | some s => textShown n (n ++ "_encoding") s
  | none => base64Shown n (n ++ "_encoding") a.stored

/-- Without stored bytes the name is the empty text. -/
theorem stored_ne_nil {a : StoredName} (h : a.text? = none) : a.stored ≠ [] := by
  obtain ⟨oneByte, stored⟩ := a
  rintro rfl
  cases oneByte <;> cases h

end StoredName

namespace Report

open HiveDump.Action Markup

variable {n e : String} {tag tag' : PendingTag} {s t : Session Writer}

/-! ## Names are shown -/

/-- **A name is shown in every start tag that has room for it**, whatever the policy is. -/
theorem perform_nameAttribute (ho : s.output.Offers tag n (n ++ "_encoding"))
    (hopen : s.output.openAttribute = none) (op : Operation) (target : Target) (a : StoredName) :
    ∃ s', (nameAttribute op target n a.text? a.stored).perform s = (.ok (), s') ∧
      s'.output = s.output.adding tag (a.marks n) := by
  unfold nameAttribute StoredName.marks
  cases htext : a.text? with
  | none =>
    have hstored : a.stored.isEmpty = false :=
      List.isEmpty_eq_false_iff.mpr (StoredName.stored_ne_nil htext)
    have hwrite := perform_base64Attribute ho a.stored
    rw [hopen] at hwrite
    simp only [Option.isNone_none, hstored, Bool.not_false, Bool.and_self, if_true]
    exact ⟨_, hwrite, rfl⟩
  | some text =>
    have hshow := perform_safeAttribute ho (dataShown_text n (n ++ "_encoding") text)
      (fun hsome => by rw [hopen] at hsome; cases hsome)
    have htried := perform_attempt op target
      (safeAttribute (some n) (some (n ++ "_encoding")) (some (.text text))) s
    rw [hshow] at htried
    simp only [Option.isNone_some, Bool.false_and, Bool.false_eq_true, if_false, Option.map_some]
    exact ⟨_, htried, rfl⟩

/-! ## What looks the same -/

theorem utf8_injective {s t : String} (h : Utf8.encode s = Utf8.encode t) : s = t :=
  String.toList_injective (Utf8.encodeChars_injective h)

theorem base64Shown_inj {b c : Bytes} : base64Shown n e b = base64Shown n e c ↔ b = c := by
  refine ⟨fun h => ?_, fun h => h ▸ rfl⟩
  simp only [base64Shown, List.cons.injEq, Attribute.mk.injEq, true_and, and_true] at h
  have hread := Base64.decode?_text b
  rw [h, Base64.decode?_text] at hread
  exact (Option.some.inj hread).symm

/-- Texts look the same exactly if they are the same up to their first zero characters. -/
theorem textShown_eq_iff (hne : n ≠ e) {x y : String} :
    textShown n e x = textShown n e y ↔ untilNul x = untilNul y := by
  constructor
  · intro h
    have hread := readBack?_textShown hne x
    rw [h, readBack?_textShown hne y] at hread
    exact utf8_injective (Option.some.inj hread).symm
  · intro h
    have hbytes : (AttributeData.text x).terminated = (AttributeData.text y).terminated := by
      rw [terminated_text, terminated_text, h]
    unfold textShown recommend
    rw [hbytes, h]

/-- A text looks like stored bytes exactly if it is shown in base64 and they are its UTF-8. -/
theorem textShown_eq_base64Shown_iff {x : String} {b : Bytes} :
    textShown n e x = base64Shown n e b ↔
      ¬ (AttributeData.text x).IsPlain ∧ (AttributeData.text x).terminated = b := by
  rw [← recommend_eq_base64_iff]
  unfold textShown
  cases (recommend (.text x)).1 with
  | plain => simp [base64Shown]
  | base64 => simp [base64Shown_inj]

theorem marks_eq_iff (hne : n ≠ n ++ "_encoding") (a b : StoredName) :
    a.marks n = b.marks n ↔ a.Alike b := by
  unfold StoredName.marks StoredName.Alike
  cases a.text? with
  | none =>
    cases b.text? with
    | none => exact base64Shown_inj
    | some t => exact eq_comm.trans textShown_eq_base64Shown_iff
  | some s =>
    cases b.text? with
    | none => exact textShown_eq_base64Shown_iff
    | some t => exact textShown_eq_iff hne

/-- **Two names look the same only if** both decode, to texts that are the same up to their first
zero characters; or neither does, and the same bytes are stored; or only one does, is not printable
ASCII up to its first zero character, and in UTF-8 is what is stored of the other. -/
theorem nameAttribute_alike_iff (hs : s.output.Offers tag n (n ++ "_encoding"))
    (hsopen : s.output.openAttribute = none) (ht : t.output.Offers tag' n (n ++ "_encoding"))
    (htopen : t.output.openAttribute = none) (op op' : Operation) (target target' : Target)
    (a b : StoredName) :
    ∃ s' t' added added',
      (nameAttribute op target n a.text? a.stored).perform s = (.ok (), s') ∧
        s'.output = s.output.adding tag added ∧
      (nameAttribute op' target' n b.text? b.stored).perform t = (.ok (), t') ∧
        t'.output = t.output.adding tag' added' ∧
      (added = added' ↔ a.Alike b) := by
  obtain ⟨s', hperform, houtput⟩ := perform_nameAttribute hs hsopen op target a
  obtain ⟨t', hperform', houtput'⟩ := perform_nameAttribute ht htopen op' target' b
  exact ⟨s', t', _, _, hperform, houtput, hperform', houtput', marks_eq_iff hs.distinct a b⟩

/-- The document of a start tag that has taken a name. -/
def named (a : StoredName) : Writer :=
  ((nameAttribute "node_start" (.node { handle := 0, name := a.text?, storedName := a.stored })
    "name" a.text? a.stored).perform startedTag).2.output

theorem named_eq (a : StoredName) :
    named a = startedTag.output.adding { name := "e" } (a.marks "name") := by
  obtain ⟨s', hperform, houtput⟩ := perform_nameAttribute offers_startedTag rfl "node_start"
    (.node { handle := 0, name := a.text?, storedName := a.stored }) a
  unfold named
  rw [hperform, ← houtput]

theorem named_congr {a b : StoredName} (h : a.Alike b) : named a = named b := by
  rw [named_eq, named_eq, (marks_eq_iff offers_startedTag.distinct a b).mpr h]

/-- Two texts that differ behind a zero character look the same; and so do a text and stored bytes
that decode to none. -/
theorem named_alike :
    (named ⟨true, [0x61, 0x00, 0x62]⟩ = named ⟨true, [0x61, 0x00, 0x63]⟩ ∧
      StoredName.text? ⟨true, [0x61, 0x00, 0x62]⟩ = some "a\x00b" ∧
      StoredName.text? ⟨true, [0x61, 0x00, 0x63]⟩ = some "a\x00c") ∧
    named ⟨true, [0xE9, 0x61]⟩ = named ⟨false, [0xC3, 0xA9, 0x61]⟩ ∧
      StoredName.text? ⟨true, [0xE9, 0x61]⟩ = some "éa" ∧
      StoredName.text? ⟨false, [0xC3, 0xA9, 0x61]⟩ = none := by
  refine ⟨⟨named_congr ?zero, rfl, rfl⟩, named_congr ?bytes, rfl, rfl⟩
  case zero =>
    -- by evaluation of the texts; the writers themselves are too large to compare
    have huntil : untilNul "a\x00b" = untilNul "a\x00c" := by decide
    exact huntil
  case bytes =>
    refine ⟨fun hplain => ?_, rfl⟩
    have hbase64 : (recommend (.text "éa")).1 = .base64 := rfl
    exact recommend_eq_base64_iff.mp hbase64 hplain

theorem nameAttribute_alike_iff_startedTag :
    startedTag.output.Offers { name := "e" } "name" "name_encoding" ∧
      startedTag.output.openAttribute = none ∧
      ∃ s' t' added added',
        (nameAttribute "node_start" (.node { handle := 0, name := some "a" }) "name" (some "a")
          [0x61]).perform startedTag = (.ok (), s') ∧
        s'.output = startedTag.output.adding { name := "e" } added ∧
        (nameAttribute "node_start" (.node { handle := 0, name := none }) "name" none
          [0x61]).perform startedTag = (.ok (), t') ∧
        t'.output = startedTag.output.adding { name := "e" } added' ∧ added ≠ added' := by
  obtain ⟨s', t', added, added', hs, hadded, ht, hadded', hiff⟩ := nameAttribute_alike_iff
    offers_startedTag rfl offers_startedTag rfl "node_start" "node_start"
    (.node { handle := 0, name := some "a" }) (.node { handle := 0, name := none })
    ⟨true, [0x61]⟩ ⟨false, [0x61]⟩
  refine ⟨offers_startedTag, rfl, s', t', added, added', hs, hadded, ht, hadded', ?_⟩
  exact fun h => (hiff.mp h).1 (recommend_eq_plain_iff.mp rfl)

end Report

end HiveDump
