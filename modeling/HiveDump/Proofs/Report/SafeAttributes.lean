import HiveDump.Proofs.Report.Recovery

/-!
# Attributes that show any data

Data is shown in an attribute as far as its first zero byte: as it is, or in base64 behind a second
attribute. What a reader finds is what the data holds up to there, and it does not matter whether
the data was given as a text or as the bytes of one.

There is one exception. Bytes that are to be shown as they are become a text first, and all of them:
if one behind the first zero byte is no ASCII, they are refused, although nothing behind that byte
would be shown.

Results:
* `dataShown_eq_error_iff`: which data is refused;
* `perform_safeAttribute`: what showing data does to a start tag that has room for it;
* `safeAttribute_encode`: texts and their bytes;
* `safeAttribute_missing`: nothing is written if an argument is missing;
* **`safeAttribute_succeeds_iff`**: where data is shown, and what can be read then.
-/

namespace HiveDump

/-- Whether a start tag takes attributes, and has neither of two. -/
structure Writer.Offers (w : Writer) (tag : PendingTag) (n e : String) : Prop where
  pending : w.pending = some tag
  distinct : n ≠ e
  name : n ∉ tag.attributes.map (·.name)
  encodingName : e ∉ tag.attributes.map (·.name)

namespace AttributeData

/-- Whether data is printable ASCII up to its first zero byte. -/
def IsPlain (d : AttributeData) : Prop :=
  ∀ x ∈ d.terminated, Report.isPrintable x.toNat = true

/-- Whether bytes that are printable ASCII up to the first zero byte go on behind it with one that
is no ASCII. -/
def HidesByte (d : AttributeData) : Prop :=
  d.IsPlain ∧ ∃ b, d = .bytes b ∧ ∃ x ∈ b, 0x80 ≤ x.toNat

end AttributeData

namespace Report

open HiveDump.Action Markup

variable {n e : String} {d : AttributeData} {s : Session Writer} {tag : PendingTag}
  {added : List Attribute} {fault : Fault}

/-! ## What is shown, and what is refused -/

theorem recommend_eq_plain_iff : (recommend d).1 = .plain ↔ d.IsPlain := by
  rw [AttributeData.IsPlain, ← firstUnprintable?_eq_none_iff 0, recommend]
  cases firstUnprintable? 0 d.terminated <;> simp

theorem recommend_eq_base64_iff : (recommend d).1 = .base64 ↔ ¬ d.IsPlain := by
  rw [← recommend_eq_plain_iff]
  cases (recommend d).1 <;> simp

theorem plainShown_eq_error_iff :
    plainShown d = .error fault ↔
      (∃ b, d = .bytes b ∧ ∃ x ∈ b, 0x80 ≤ x.toNat) ∧ fault = .notASCII := by
  cases d with
  | text s => simp [plainShown]
  | bytes b =>
    have hascii : b.all (· < 0x80) = true ↔ ¬ ∃ x ∈ b, 0x80 ≤ x.toNat := by
      simp [UInt8.lt_iff_toNat_lt]
    have hbytes : (∃ b', AttributeData.bytes b = .bytes b' ∧ ∃ x ∈ b', 0x80 ≤ x.toNat) ↔
        ∃ x ∈ b, 0x80 ≤ x.toNat := by
      simp
    rw [plainShown, hbytes]
    by_cases h : b.all (· < 0x80) = true
    · rw [if_pos h]
      constructor
      · intro hok
        cases hok
      · rintro ⟨hhigh, -⟩
        exact absurd hhigh (hascii.mp h)
    · rw [if_neg h, Except.error.injEq]
      constructor
      · rintro rfl
        exact ⟨Classical.not_not.mp (mt hascii.mpr h), rfl⟩
      · rintro ⟨-, rfl⟩
        rfl

/-- Data is refused only if a byte behind its first zero byte is no ASCII. -/
theorem dataShown_eq_error_iff :
    dataShown n e d = .error fault ↔ d.HidesByte ∧ fault = .notASCII := by
  rw [AttributeData.HidesByte, ← recommend_eq_plain_iff, dataShown]
  cases (recommend d).1 with
  | plain => rw [Failing.map_eq_error, plainShown_eq_error_iff]; simp
  | base64 => simp

theorem exists_dataShown (h : ¬ d.HidesByte) (n e : String) :
    ∃ added, dataShown n e d = .ok added := by
  cases hd : dataShown n e d with
  | ok added => exact ⟨added, rfl⟩
  | error fault => exact absurd (dataShown_eq_error_iff.mp hd).1 h

/-- The attributes of data: one, or two of which the first tells of base64. -/
theorem shape_dataShown (h : dataShown n e d = .ok added) :
    (d.IsPlain ∧ ∃ text, added = [⟨n, text⟩]) ∨
      ¬ d.IsPlain ∧ ∃ text, added = [⟨e, AttributeEncoding.base64.name⟩, ⟨n, text⟩] := by
  rw [← recommend_eq_plain_iff]
  unfold dataShown at h
  cases hr : (recommend d).1 with
  | plain =>
    rw [hr] at h
    obtain ⟨text, -, rfl⟩ := Failing.map_eq_ok.mp h
    exact .inl ⟨rfl, text, rfl⟩
  | base64 =>
    rw [hr] at h
    cases h
    exact .inr ⟨nofun, _, rfl⟩

/-! ## Calls for a start tag that has room -/

/-- The session behind the line that tells why data is not shown as it is. -/
def noted (d : AttributeData) (s : Session Writer) : Session Writer :=
  match (recommend d).2 with
  | some line => { s with diagnostics := s.diagnostics.push (.log line) }
  | none => s

theorem output_noted (d : AttributeData) (s : Session Writer) : (noted d s).output = s.output := by
  unfold noted
  split <;> rfl

/-- Only data that is not shown as it is leaves a line. -/
theorem noted_of_plain (h : d.IsPlain) (s : Session Writer) : noted d s = s := by
  rw [AttributeData.IsPlain, ← firstUnprintable?_eq_none_iff 0] at h
  rw [noted, recommend, h]

theorem adding_adding (w : Writer) (tag : PendingTag) (as bs : List Attribute) :
    (w.adding tag as).adding { tag with attributes := tag.attributes ++ as } bs =
      w.adding tag (as ++ bs) := by
  simp only [Writer.adding, List.append_assoc]

/-- Bytes in base64, behind the attribute that tells of it; that one is left alone if another
attribute takes bytes already. -/
theorem perform_base64Attribute (ho : s.output.Offers tag n e) (b : Bytes) :
    (base64Attribute n e b).perform s =
      match s.output.openAttribute with
      | none => (.ok (), { s with output := s.output.adding tag (base64Shown n e b) })
      | some _ => (.error (.write (.misuse .attributeAlreadyOpen)),
          { s with output := s.output.adding tag [⟨e, AttributeEncoding.base64.name⟩] }) := by
  let behind : PendingTag :=
    { tag with attributes := tag.attributes ++ [⟨e, AttributeEncoding.base64.name⟩] }
  let marked := s.output.adding tag [⟨e, AttributeEncoding.base64.name⟩]
  have hpending : marked.pending = some behind := rfl
  have hnew : n ∉ behind.attributes.map (·.name) := by
    simpa [behind, ho.distinct] using ho.name
  have hmark := perform_write_of_ok
    (Writer.call_writeAttribute ho.pending ho.encodingName AttributeEncoding.base64.name)
  have hstart := Writer.call_startAttribute hpending n
  unfold base64Attribute
  rw [perform_bind_of_ok hmark]
  cases hopen : s.output.openAttribute with
  | some a =>
    have hmarked : marked.openAttribute = some a := hopen
    rw [hmarked] at hstart
    exact perform_bind_of_error (perform_write_of_error hstart)
  | none =>
    have hmarked : marked.openAttribute = none := hopen
    have hpiece := Writer.call_writeBase64 marked { name := n } b 0 (some b.length)
    have hend := Writer.call_endAttribute hmarked ⟨n, b⟩
    rw [hmarked] at hstart
    rw [Option.elim_some, List.nil_append, Int.zero_add, slice_length] at hpiece
    rw [Writer.call_writeAttribute hpending hnew, adding_adding] at hend
    rw [perform_bind_of_ok (perform_write_of_ok hstart),
      perform_bind_of_ok (perform_write_of_ok hpiece)]
    exact perform_write_of_ok hend

/-! ## Showing data -/

/-- Writing data as it is, or in base64, behind the line that tells which. -/
theorem perform_safeAttribute_eq (n e : String) (d : AttributeData) (s : Session Writer) :
    (safeAttribute (some n) (some e) (some d)).perform s = match (recommend d).1 with
      | .plain => (do
          Action.write (Writer.writeAttribute n (← plainText d))
          return AttributeEncoding.plain : Action Writer AttributeEncoding).perform (noted d s)
      | .base64 => (do
          base64Attribute n e d.terminated
          return AttributeEncoding.base64 : Action Writer AttributeEncoding).perform
            (noted d s) := by
  unfold safeAttribute noted
  rcases hr : recommend d with ⟨shown, line⟩
  simp only [hr]
  cases line <;> cases shown <;> rfl

theorem perform_safeAttribute (ho : s.output.Offers tag n e) (h : dataShown n e d = .ok added)
    (hopen : s.output.openAttribute.isSome = true → d.IsPlain) :
    (safeAttribute (some n) (some e) (some d)).perform s =
      (.ok (recommend d).1, { noted d s with output := s.output.adding tag added }) := by
  have hn : (noted d s).output.Offers tag n e := by rwa [output_noted]
  rw [perform_safeAttribute_eq]
  unfold dataShown at h
  cases hr : (recommend d).1 with
  | plain =>
    rw [hr] at h
    obtain ⟨text, hs, rfl⟩ := Failing.map_eq_ok.mp h
    have hwrite := perform_write_of_ok (Writer.call_writeAttribute hn.pending hn.name text)
    rw [output_noted] at hwrite
    have htext : (plainText d).perform (noted d s) = (.ok text, noted d s) := by
      rw [plainText_eq, hs]
      rfl
    exact (perform_bind_of_ok htext).trans (perform_bind_of_ok hwrite)
  | base64 =>
    rw [hr] at h
    cases h
    have hnone : (noted d s).output.openAttribute = none := by
      rw [output_noted, ← Option.not_isSome_iff_eq_none]
      exact fun hsome => recommend_eq_base64_iff.mp hr (hopen hsome)
    have hwrite := perform_base64Attribute hn d.terminated
    rw [hnone, output_noted] at hwrite
    exact perform_bind_of_ok hwrite

/-- Data that is refused leaves nothing behind. -/
theorem perform_safeAttribute_of_hides (h : d.HidesByte) (n e : String) (s : Session Writer) :
    (safeAttribute (some n) (some e) (some d)).perform s = (.error .notASCII, s) := by
  have hplain : (recommend d).1 = .plain := recommend_eq_plain_iff.mpr h.1
  have htext : (plainText d).perform s = (.error .notASCII, s) := by
    rw [plainText_eq, plainShown_eq_error_iff.mpr ⟨h.2, rfl⟩]
    rfl
  rw [perform_safeAttribute_eq, hplain, noted_of_plain h.1]
  exact perform_bind_of_error htext

/-- Base64 is refused while another attribute takes bytes. -/
theorem perform_safeAttribute_of_open (ho : s.output.Offers tag n e)
    (hopen : s.output.openAttribute.isSome = true) (h : ¬ d.IsPlain) :
    ((safeAttribute (some n) (some e) (some d)).perform s).1 =
      .error (.write (.misuse .attributeAlreadyOpen)) := by
  have hn : (noted d s).output.Offers tag n e := by rwa [output_noted]
  obtain ⟨a, ha⟩ := Option.isSome_iff_exists.mp hopen
  have hwrite := perform_base64Attribute hn d.terminated
  rw [output_noted, ha] at hwrite
  rw [perform_safeAttribute_eq, recommend_eq_base64_iff.mpr h]
  exact congrArg Prod.fst (perform_bind_of_error hwrite)

/-- The bytes of a text are shown as the text is, if they are not refused. -/
theorem plainText_encode {text : String} (hplain : (AttributeData.text text).IsPlain)
    (h : ¬ (AttributeData.bytes (Utf8.encode text)).HidesByte) :
    plainText (.bytes (Utf8.encode text)) = plainText (.text text) := by
  rw [plainText_eq, plainText_eq]
  congr 1
  cases hs : plainShown (.bytes (Utf8.encode text)) with
  | error fault => exact absurd ⟨hplain, (plainShown_eq_error_iff.mp hs).1⟩ h
  | ok shown =>
    have hbytes : Utf8.encode shown = Utf8.encode (untilNul text) := by
      rw [encode_plainShown hs, ← terminated_text]
      rfl
    exact congrArg Except.ok (String.toList_injective (Utf8.encodeChars_injective hbytes))

/-- **It does not matter whether a text is given or its bytes**, unless the bytes are refused. -/
theorem safeAttribute_encode {text : String}
    (h : ¬ (AttributeData.bytes (Utf8.encode text)).HidesByte) (n e : Option String) :
    safeAttribute n e (some (.bytes (Utf8.encode text))) =
      safeAttribute n e (some (.text text)) := by
  have hsame : recommend (.bytes (Utf8.encode text)) = recommend (.text text) := rfl
  unfold safeAttribute
  cases n with
  | none => rfl
  | some n =>
    cases e with
    | none => rfl
    | some e =>
      dsimp only
      rw [hsame]
      rcases hr : recommend (.text text) with ⟨shown, line⟩
      cases shown with
      | base64 => rfl
      | plain =>
        have hplain : (AttributeData.text text).IsPlain :=
          recommend_eq_plain_iff.mp (by rw [hr])
        rw [plainText_encode hplain h]

/-- Nothing is written if an argument is missing. -/
theorem safeAttribute_missing {n e : Option String} {d : Option AttributeData}
    (h : n = none ∨ e = none ∨ d = none) :
    ∃ fault, fault.kind = .missingInput ∧
      ∀ s : Session Writer, (safeAttribute n e d).perform s = (.error fault, s) := by
  cases d with
  | none => exact ⟨.missingAttributeData n, rfl, fun _ => by cases n <;> cases e <;> rfl⟩
  | some d =>
    refine ⟨.missingAttributeName n, rfl, fun _ => ?_⟩
    cases n with
    | none => rfl
    | some n =>
      cases e with
      | none => rfl
      | some e => simp at h

/-- Where data is shown. -/
theorem exists_ok_iff (ho : s.output.Offers tag n e) :
    (∃ encoding t, (safeAttribute (some n) (some e) (some d)).perform s = (.ok encoding, t)) ↔
      ¬ d.HidesByte ∧ (s.output.openAttribute.isSome = true → d.IsPlain) := by
  constructor
  · rintro ⟨encoding, t, h⟩
    refine ⟨fun hd => ?_, fun hopen => Classical.byContradiction fun hplain => ?_⟩
    · rw [perform_safeAttribute_of_hides hd] at h
      cases h
    · have herror := perform_safeAttribute_of_open ho hopen hplain
      rw [h] at herror
      cases herror
  · rintro ⟨hd, hopen⟩
    obtain ⟨added, hadded⟩ := exists_dataShown hd n e
    exact ⟨_, _, perform_safeAttribute ho hadded hopen⟩

/-- What is shown then, and what can be read. -/
theorem shown_of_ok (ho : s.output.Offers tag n e) {encoding : AttributeEncoding}
    {t : Session Writer}
    (h : (safeAttribute (some n) (some e) (some d)).perform s = (.ok encoding, t)) :
    ∃ added, t.output = s.output.adding tag added ∧
      ((encoding = .plain ∧ ∃ text, added = [⟨n, text⟩]) ∨ encoding = .base64 ∧
        ∃ text, added = [⟨e, AttributeEncoding.base64.name⟩, ⟨n, text⟩]) ∧
      readBack? n e (tag.attributes ++ added) = some d.terminated := by
  obtain ⟨hd, hopen⟩ := (exists_ok_iff ho).mp ⟨encoding, t, h⟩
  obtain ⟨added, hadded⟩ := exists_dataShown hd n e
  rw [perform_safeAttribute ho hadded hopen] at h
  cases h
  refine ⟨added, rfl, ?_, ?_⟩
  · rcases shape_dataShown hadded with ⟨hplain, hshape⟩ | ⟨hplain, hshape⟩
    · exact .inl ⟨recommend_eq_plain_iff.mpr hplain, hshape⟩
    · exact .inr ⟨recommend_eq_base64_iff.mpr hplain, hshape⟩
  · have hn := attribute?_eq_none fun a ha heq => ho.name (List.mem_map.mpr ⟨a, ha, heq⟩)
    have he := attribute?_eq_none fun a ha heq => ho.encodingName (List.mem_map.mpr ⟨a, ha, heq⟩)
    rw [readBack?_append hn he, readBack?_dataShown ho.distinct hadded]

/-- **Data is shown wherever a start tag has room for it**, unless it is refused, or base64 is
called for while another attribute takes bytes. What is shown is one attribute, or two of which the
first tells of base64, and gives back what the data holds up to its first zero byte. A text is shown
as its bytes are. Without all arguments nothing is written. -/
theorem safeAttribute_succeeds_iff (s : Session Writer) :
    (∀ (tag : PendingTag) (n e : String) (d : AttributeData),
      s.output.Offers tag n e →
        ((∃ encoding t,
            (safeAttribute (some n) (some e) (some d)).perform s = (.ok encoding, t)) ↔
          ¬ d.HidesByte ∧ (s.output.openAttribute.isSome = true → d.IsPlain)) ∧
        ∀ encoding t, (safeAttribute (some n) (some e) (some d)).perform s = (.ok encoding, t) →
          ∃ added, t.output = s.output.adding tag added ∧
            ((encoding = .plain ∧ ∃ text, added = [⟨n, text⟩]) ∨ encoding = .base64 ∧
              ∃ text, added = [⟨e, AttributeEncoding.base64.name⟩, ⟨n, text⟩]) ∧
            readBack? n e (tag.attributes ++ added) = some d.terminated) ∧
    (∀ n e text : String,
      ¬ (AttributeData.bytes (Utf8.encode text)).HidesByte →
        (safeAttribute (some n) (some e) (some (.bytes (Utf8.encode text)))).perform s =
          (safeAttribute (some n) (some e) (some (.text text))).perform s) ∧
    ∀ (n e : Option String) (d : Option AttributeData),
      n = none ∨ e = none ∨ d = none →
        ∃ fault, fault.kind = .missingInput ∧
          (safeAttribute n e d).perform s = (.error fault, s) := by
  refine ⟨fun tag n e d ho => ⟨exists_ok_iff ho, fun encoding t h => shown_of_ok ho h⟩,
    fun n e text h => ?_, fun n e d h => ?_⟩
  · rw [safeAttribute_encode h]
  · obtain ⟨fault, hkind, hperform⟩ := safeAttribute_missing h
    exact ⟨fault, hkind, hperform s⟩

/-! ## A start tag -/

section Example

/-- A document whose first start tag takes attributes. -/
def startedTag : Session Writer where
  output := {
    label := "utf-8", stage := .writing, tokens := #[.declaration "utf-8"],
    pending := some { name := "e" } }
  policy := .standard

theorem offers_startedTag :
    startedTag.output.Offers { name := "e" } "name" "name_encoding" :=
  ⟨rfl, by decide, by simp, by simp⟩

/-- Three printable bytes are not shown because of one behind the zero byte that follows them. -/
theorem safeAttribute_hidden :
    startedTag.output.Offers { name := "e" } "name" "name_encoding" ∧
      (safeAttribute (some "name") (some "name_encoding")
        (some (.bytes [0x61, 0x62, 0x63, 0x00, 0xFF]))).perform startedTag =
          (.error .notASCII, startedTag) := by
  have hplain : (AttributeData.bytes [0x61, 0x62, 0x63, 0x00, 0xFF]).IsPlain :=
    recommend_eq_plain_iff.mp rfl
  have hhides : (AttributeData.bytes [0x61, 0x62, 0x63, 0x00, 0xFF]).HidesByte :=
    ⟨hplain, _, rfl, 0xFF, by simp, by decide⟩
  exact ⟨offers_startedTag, perform_safeAttribute_of_hides hhides _ _ _⟩

theorem not_hidesByte_of_lt {b : Bytes} (h : ∀ x ∈ b, x.toNat < 0x80) :
    ¬ (AttributeData.bytes b).HidesByte := by
  rintro ⟨-, _, heq, x, hx, hhigh⟩
  cases heq
  exact absurd hhigh (Nat.not_le.mpr (h x hx))

theorem safeAttribute_succeeds_iff_startedTag :
    startedTag.output.Offers { name := "e" } "name" "name_encoding" ∧
      ¬ (AttributeData.bytes [0x61, 0x00, 0x62]).HidesByte ∧
      ¬ (AttributeData.bytes (Utf8.encode "a")).HidesByte ∧
      (∃ encoding t added, (safeAttribute (some "name") (some "name_encoding")
          (some (.bytes [0x61, 0x00, 0x62]))).perform startedTag = (.ok encoding, t) ∧
        t.output = startedTag.output.adding { name := "e" } added ∧
        readBack? "name" "name_encoding" added = some [0x61]) ∧
      (safeAttribute (some "name") (some "name_encoding")
          (some (.bytes (Utf8.encode "a")))).perform startedTag =
        (safeAttribute (some "name") (some "name_encoding") (some (.text "a"))).perform
          startedTag ∧
      ∃ fault, fault.kind = .missingInput ∧
        (safeAttribute none (some "name_encoding") (some (.text "a"))).perform startedTag =
          (.error fault, startedTag) := by
  have hbytes : ¬ (AttributeData.bytes [0x61, 0x00, 0x62]).HidesByte :=
    not_hidesByte_of_lt (by simp)
  have hencoded : Utf8.encode "a" = [0x61] := rfl
  have htext : ¬ (AttributeData.bytes (Utf8.encode "a")).HidesByte :=
    not_hidesByte_of_lt (by simp [hencoded])
  obtain ⟨hshown, hsame, hmissing⟩ := safeAttribute_succeeds_iff startedTag
  obtain ⟨hiff, hadded⟩ := hshown { name := "e" } "name" "name_encoding"
    (.bytes [0x61, 0x00, 0x62]) offers_startedTag
  obtain ⟨encoding, t, hok⟩ := hiff.mpr ⟨hbytes, nofun⟩
  obtain ⟨added, houtput, -, hread⟩ := hadded encoding t hok
  exact ⟨offers_startedTag, hbytes, htext, ⟨encoding, t, added, hok, houtput, hread⟩,
    hsame "name" "name_encoding" "a" htext,
    hmissing none (some "name_encoding") (some (.text "a")) (.inl rfl)⟩

end Example

end Report

end HiveDump
