import HiveDump.Memory.Hive
import HiveDump.Proofs.Report.ShownValues
import HiveDump.Proofs.Text.Base64
import HiveDump.Proofs.Text.Utf8
import HiveDump.Report.Recovery

/-!
# Values can be found again in a report

Where no policy raises, a value is one element that names its type and gives back its payload. What
is asked about the place of a value comes last, so that the payload is there even if the report ends
because of an answer.

Results:
* `readBack?_textShown`: a text that is shown can be read;
* `attribute?_valueMarks`: the attributes in front of a payload;
* `givesBack_payload`: one case for each shape;
* **`value_givesBack`**: the element of a value.
-/

namespace HiveDump.Report

open Markup Markup.Tree

variable {n e : String} {as bs : List Attribute}

/-! ## Attributes -/

@[simp] theorem attribute?_nil (n : String) : attribute? n [] = none := rfl

theorem attribute?_cons (n : String) (a : Attribute) (as : List Attribute) :
    attribute? n (a :: as) = if a.name = n then some a.value else attribute? n as := by
  unfold attribute?
  by_cases h : a.name = n
  · simp [h]
  · rw [List.find?_cons_of_neg (by simpa using h), if_neg h]

theorem attribute?_append (n : String) (as bs : List Attribute) :
    attribute? n (as ++ bs) = (attribute? n as).or (attribute? n bs) := by
  unfold attribute?
  rw [List.find?_append]
  cases as.find? (·.name == n) <;> rfl

theorem attribute?_eq_none (h : ∀ a ∈ as, a.name ≠ n) : attribute? n as = none := by
  unfold attribute?
  rw [Option.map_eq_none_iff, List.find?_eq_none]
  simpa using h

theorem terminated_text (s : String) :
    (AttributeData.text s).terminated = Utf8.encode (untilNul s) := by
  rw [untilNul, Utf8.encode, String.toList_ofList]
  exact Utf8.takeWhile_encodeChars s.toList

/-- What is shown as it is has the bytes of the data. -/
theorem encode_plainShown {d : AttributeData} {s : String} (h : plainShown d = .ok s) :
    Utf8.encode s = d.terminated := by
  cases d with
  | text full =>
    cases h
    exact (terminated_text full).symm
  | bytes b =>
    rw [plainShown] at h
    split at h
    next hascii =>
      cases h
      rw [List.all_eq_true] at hascii
      have hlt : ∀ x ∈ b, x.toNat < 0x80 := fun x hx =>
        UInt8.lt_iff_toNat_lt.mp (of_decide_eq_true (hascii x hx))
      rw [untilNul, Utf8.encode, String.toList_ofList, String.toList_ofList,
        ← Utf8.takeWhile_encodeChars, encodeChars_ofBytes hlt]
      rfl
    next => cases h

/-- Data that is shown, as it is or in base64, can be read up to its first zero byte. -/
theorem readBack?_dataShown (hne : n ≠ e) {d : AttributeData} (h : dataShown n e d = .ok as) :
    readBack? n e as = some d.terminated := by
  unfold dataShown at h
  split at h
  · obtain ⟨s, hs, rfl⟩ := Failing.map_eq_ok.mp h
    simp [readBack?, attribute?_cons, hne, encode_plainShown hs]
  · cases h
    simp [readBack?, base64Shown, base64?, attribute?_cons, hne.symm, Base64.decode?_text]

/-- A text up to its first zero character. -/
theorem readBack?_textShown (hne : n ≠ e) (s : String) :
    readBack? n e (textShown n e s) = some (Utf8.encode (untilNul s)) := by
  rw [readBack?_dataShown hne (dataShown_text n e s), terminated_text]

/-- Other attributes in front of a text do not matter. -/
theorem readBack?_append (hn : attribute? n as = none) (he : attribute? e as = none) :
    readBack? n e (as ++ bs) = readBack? n e bs := by
  simp [readBack?, base64?, attribute?_append, hn, he]

/-! ## The attributes in front of a payload -/

/-- The attributes in front of a payload are those of a type, of an encoding if the payload is
announced, and of the value's name. -/
theorem attribute?_valueMarks (v : Value) (type : String) (encoding : Option AttributeEncoding) :
    attribute? "type" (valueMarks v type encoding).2 = some type ∧
      attribute? "value" (valueMarks v type encoding).2 = none ∧
      attribute? "value_encoding" (valueMarks v type encoding).2 = encoding.map (·.name) := by
  have hnone : attribute? "value" (valueMarks v type encoding).2 = none := by
    refine attribute?_eq_none fun a ha => ?_
    have hname := names_valueMarks v type encoding a ha
    rintro heq
    rw [heq] at hname
    cases encoding <;> simp [valueNames] at hname
  refine ⟨?_, hnone, ?_⟩
  · simp [valueMarks, attribute?_cons]
  · cases encoding with
    | some e => simp [valueMarks, attribute?_cons]
    | none =>
      refine attribute?_eq_none fun a ha => ?_
      have hname := names_valueMarks v type none a ha
      rintro heq
      rw [heq] at hname
      simp [valueNames] at hname

/-! ## Payloads -/

section Payloads

variable {v : Value} {shape : Shape}

/-- The type of a value in the step for its shape. -/
theorem valueType_of_shape (h : v.shape = .ok shape) :
    valueType shape v = .ok (v.kind.label v.decoded) := by
  unfold Value.shape at h
  cases hd : v.decoded <;> rw [hd] at h
  · cases hk : v.kind <;> rw [hk] at h <;> cases h <;> simp [valueType, typeOf, hk, hd] <;> rfl
  · cases h
    cases hk : v.kind <;> simp [valueType, hk, hd] <;> rfl

/-- A decoded text. -/
theorem givesBack_text (h : v.shape = .ok .string) {s : String} (hdata : v.data = .text s)
    (hshows : ShowsText as s) : GivesBack v as [] := by
  cases hk : v.kind <;> cases hd : v.decoded <;>
    simp_all [GivesBack, Value.shape, Shape.ofKind, Kind.isText]

/-- A decoded list of texts. -/
theorem givesBack_texts (h : v.shape = .ok .strings) {ss : List String}
    (hdata : v.data = .texts (ss.map some)) {ts : List Tree} (hshows : ShowsTexts ts ss) :
    GivesBack v as ts := by
  cases hk : v.kind <;> cases hd : v.decoded <;>
    simp_all [GivesBack, Value.shape, Shape.ofKind, Kind.isText]
  exact ⟨ss, rfl, hshows⟩

/-- Stored bytes, of text that did not decode too. -/
theorem givesBack_bytes (h : v.shape = .ok .badString ∨ v.shape = .ok .binary)
    (hshows : ShowsBytes as (v.raw.take v.length.toNat)) : GivesBack v as [] := by
  cases hk : v.kind <;> cases hd : v.decoded <;>
    simp_all [GivesBack, Value.shape, Shape.ofKind, Kind.isText]

/-- Stored bytes, if there are any. -/
theorem givesBack_rest (h : v.shape = .ok .none ∨ v.shape = .ok .other)
    (hshows : if v.length = 0 then ShowsNothing as
      else ShowsBytes as (v.raw.take v.length.toNat)) : GivesBack v as [] := by
  cases hk : v.kind <;> cases hd : v.decoded <;>
    simp_all [GivesBack, Value.shape, Shape.ofKind, Kind.isText]

/-- A number. -/
theorem givesBack_number (h : v.shape = .ok .dword ∨ v.shape = .ok .qword) : GivesBack v as [] := by
  cases hk : v.kind <;> cases hd : v.decoded <;>
    simp_all [GivesBack, Value.shape, Shape.ofKind, Kind.isText]

/-- The content that the step for a shape relies on. -/
def Shape.Expects (shape : Shape) (p : Payload) : Prop :=
  match shape with
  | .string => ∃ s, p = .text s
  | .strings => ∃ ss : List String, p = .texts (ss.map some)
  | .dword | .qword => ∃ n, p = .number n
  | _ => True

theorem expects_of_admits (h : v.shape = .ok shape)
    (hdata : v.decoded = true → v.kind.Admits v.data) : Shape.Expects shape v.data := by
  cases hk : v.kind <;> cases hd : v.decoded <;>
    simp_all [Value.shape, Shape.ofKind, Kind.isText, Kind.Admits] <;> subst h <;>
    simp_all [Shape.Expects]

/-- Bytes in base64 behind the attribute that announces them. -/
theorem showsBytes_append (hvalue : attribute? "value" as = none)
    (hencoding : attribute? "value_encoding" as = some AttributeEncoding.base64.name)
    (hlength : 0 ≤ v.length) (b : Bytes) :
    ShowsBytes (as ++ [⟨"value", Base64.text (b.slice 0 v.length)⟩]) (b.take v.length.toNat) := by
  have hslice : b.slice 0 v.length = b.take v.length.toNat := by
    obtain ⟨k, hk⟩ := Int.eq_ofNat_of_zero_le hlength
    rw [hk, Bytes.slice_zero]
    rfl
  refine ⟨?_, ?_⟩
  · rw [attribute?_append, hencoding]
    rfl
  · rw [base64?, attribute?_append, hvalue, Option.none_or, attribute?_cons, if_pos rfl,
      Option.bind_some, Base64.decode?_text, hslice]

theorem kind_of_strings (h : v.shape = .ok .strings) : v.kind = .strings ∧ v.decoded = true := by
  cases hk : v.kind <;> cases hd : v.decoded <;>
    simp_all [Value.shape, Shape.ofKind, Kind.isText]

/-- **What a value shows gives back its payload**, behind the attributes that every value has. -/
theorem givesBack_payload (h : v.shape = .ok shape)
    (hdata : v.decoded = true → v.kind.Admits v.data) (hlength : 0 ≤ v.length)
    (hvalue : attribute? "value" as = none)
    (hencoding : attribute? "value_encoding" as = (announced shape v).map (·.name)) :
    ∃ p shown, v.presentation = .ok (shape, p) ∧ payloadShown shape v p = .ok shown ∧
      GivesBack v (as ++ shown.attributes) shown.texts := by
  have hexpects := expects_of_admits h hdata
  unfold Value.presentation
  rw [h]
  -- The kinds without a form of their own leave out what is empty.
  have hrest (hshape : v.shape = .ok .none ∨ v.shape = .ok .other)
      (hannounced : announced shape v = if 0 < v.length then some .base64 else none) :
      GivesBack v (as ++ (if 0 < v.length then bytesShown v (.bytes v.raw) else {}).attributes)
        (if 0 < v.length then bytesShown v (.bytes v.raw) else {}).texts := by
    rw [hannounced] at hencoding
    by_cases hpos : 0 < v.length
    · rw [if_pos hpos] at hencoding
      rw [if_pos hpos]
      refine givesBack_rest hshape ?_
      rw [if_neg (by omega)]
      exact showsBytes_append hvalue hencoding hlength _
    · rw [if_neg hpos] at hencoding
      rw [if_neg hpos, List.append_nil]
      refine givesBack_rest hshape ?_
      rw [if_pos (by omega)]
      exact ⟨hencoding, hvalue⟩
  cases shape with
  | string =>
    obtain ⟨s, hs⟩ := hexpects
    refine ⟨v.data, { attributes := textShown "value" "value_encoding" s }, rfl, ?_,
      givesBack_text h hs ?_⟩
    · rw [hs]
      exact congrArg (Except.map _) (dataShown_text "value" "value_encoding" s)
    · rw [ShowsText, readBack?_append hvalue hencoding]
      exact readBack?_textShown (by decide) s
  | strings =>
    obtain ⟨ss, hss⟩ := hexpects
    have hstrings : v.strings = .ok (ss.map some) := by
      rw [Value.strings, if_pos (kind_of_strings h), hss]
    rw [hstrings]
    refine ⟨.texts (ss.map some), _, rfl, rfl, givesBack_texts h hss
      ⟨textShown "value" "value_encoding", fun s _ => readBack?_textShown (by decide) s, ?_⟩⟩
    change (ss.map some).map entryTree = _
    rw [List.map_map]
    rfl
  | dword =>
    obtain ⟨n, hn⟩ := hexpects
    rw [hn]
    exact ⟨.number n, _, rfl, rfl, givesBack_number (.inl h)⟩
  | qword =>
    obtain ⟨n, hn⟩ := hexpects
    rw [hn]
    exact ⟨.number n, _, rfl, rfl, givesBack_number (.inr h)⟩
  | badString =>
    exact ⟨.bytes v.raw, _, rfl, rfl, givesBack_bytes (.inl h)
      (showsBytes_append hvalue hencoding hlength _)⟩
  | binary =>
    exact ⟨.bytes v.raw, _, rfl, rfl, givesBack_bytes (.inr h)
      (showsBytes_append hvalue hencoding hlength _)⟩
  | none => exact ⟨.bytes v.raw, _, rfl, rfl, hrest (.inl h) rfl⟩
  | other => exact ⟨.bytes v.raw, _, rfl, rfl, hrest (.inr h) rfl⟩

end Payloads

/-! ## Values -/

theorem valueShown_eq {v : Value} {shape : Shape} {p : Payload} {type : String} {shown : ValueShown}
    (hpresented : v.presentation = .ok (shape, p)) (htype : valueType shape v = .ok type)
    (hshown : payloadShown shape v p = .ok shown) :
    valueShown v = .ok {
      given := (valueMarks v type (announced shape v)).1 ++ shown.given
      attributes := (valueMarks v type (announced shape v)).2 ++ shown.attributes
      texts := shown.texts } := by
  refine Failing.bind_eq_ok.mpr ⟨_, hpresented, Failing.bind_eq_ok.mpr ⟨_, htype, ?_⟩⟩
  exact Failing.bind_eq_ok.mpr ⟨_, hshown, rfl⟩

/-- A value can be shown, with its type and payload. -/
theorem exists_givesBack {v : Value} {shape : Shape} (h : v.shape = .ok shape)
    (hdata : v.decoded = true → v.kind.Admits v.data) (hlength : 0 ≤ v.length) :
    ∃ shown, valueShown v = .ok shown ∧
      attribute? "type" shown.attributes = some (v.kind.label v.decoded) ∧
      GivesBack v shown.attributes shown.texts := by
  obtain ⟨htype, hvalue, hencoding⟩ :=
    attribute?_valueMarks v (v.kind.label v.decoded) (announced shape v)
  obtain ⟨p, shown, hpresented, hshown, hback⟩ :=
    givesBack_payload h hdata hlength hvalue hencoding
  refine ⟨_, valueShown_eq hpresented (valueType_of_shape h) hshown, ?_, hback⟩
  rw [attribute?_append, htype]
  rfl

/-- What is said of the place of a value is one or two byte runs, or nothing. -/
theorem atMostOne_valueRunsLeft (src : Source) (v : Value) :
    AtMostOne IsByteRuns (valueRunsLeft src v).2 := by
  unfold valueRunsLeft runsLeft
  cases hruns : valueRuns src v with
  | error fault => exact .inl rfl
  | ok runs =>
    have hlength : runs.length = 1 ∨ runs.length = 2 := by
      unfold valueRuns at hruns
      split at hruns
      · cases hruns
      · split at hruns
        · cases hruns
        · cases hruns
          split <;> simp
    refine .inr ⟨_, rfl, _, rfl, ?_, fun run hrun => ?_⟩
    · rwa [List.length_map]
    · obtain ⟨place, -, rfl⟩ := List.mem_map.mp hrun
      exact ⟨place.1, place.2, rfl⟩

/-- **The element of a value.** A value whose content has the type that its kind promises is written
as one element, wherever an element is open and no policy raises. It names its type and gives back
the payload. If an answer about its place ends the report, the element stays open; all of the
payload is there. -/
theorem value_givesBack (src : Source) {v : Value} {shape : Shape} (hshape : v.shape = .ok shape)
    (hdata : v.decoded = true → v.kind.Admits v.data)
    (hlength : 0 ≤ v.length) {encoding : String} {g : Growing}
    {s : Session Writer} (hstands : Stands encoding g s.output) (hinner : g.outer ≠ [])
    (hp : s.policy.NeverRaises) :
    ∃ attributes texts runs, attribute? "type" attributes = some (v.kind.label v.decoded) ∧
      GivesBack v attributes texts ∧ AtMostOne IsByteRuns runs ∧
      (Survives (valueRuns src v) → ∃ t, (value src v).perform s = (.ok (), t) ∧
        Stands encoding (g.add [.element "value" attributes (texts ++ runs)]) t.output) ∧
      ∀ fault, valueRuns src v = .error fault → fault.isRecoverable = false →
        ∃ t, (value src v).perform s = (.error fault, t) ∧
          Stands encoding ((g.opened "value" attributes).add texts) t.output := by
  obtain ⟨shown, hshown, htype, hback⟩ := exists_givesBack hshape hdata hlength
  refine ⟨shown.attributes, shown.texts, (valueRunsLeft src v).2, htype, hback,
    atMostOne_valueRunsLeft src v, fun hruns => ?_, fun fault hfault hr => ?_⟩
  · obtain ⟨w, hdoes, hw⟩ := brings_value hinner hshown hruns s.output hstands
    obtain ⟨ds, hperform⟩ := hdoes.perform hp
    exact ⟨_, hperform, hw⟩
  · obtain ⟨w, hdoes, hw⟩ := fails_value hshown hfault hr s.output hstands
    obtain ⟨ds, hperform⟩ := hdoes.perform hp
    exact ⟨_, hperform, hw⟩

/-- A text that is no ASCII in front of a zero character. -/
def cutText : Value :=
  { handle := 0x2000, key := some "", kind := .expandString, length := 6, data := .text "ü\x00b",
    raw := [0xFC, 0, 0, 0, 0x62, 0] }

theorem value_givesBack_cutText :
    let src := (MemoryHive.create { name := some "root" } none true).source
    cutText.shape = .ok .string ∧ (cutText.decoded = true → cutText.kind.Admits cutText.data) ∧
      0 ≤ cutText.length ∧ Policy.standard.NeverRaises ∧ Survives (valueRuns src cutText) ∧
      ∃ (w : Writer) (g : Growing), Stands "utf-8" g w ∧ g.outer ≠ [] ∧
        ∃ attributes texts runs, attribute? "type" attributes = some "expand" ∧
          GivesBack cutText attributes texts ∧
          ∃ t, (value src cutText).perform ⟨w, .standard, {}, #[]⟩ = (.ok (), t) ∧
            Stands "utf-8" (g.add [.element "value" attributes (texts ++ runs)]) t.output := by
  intro src
  have hshape : cutText.shape = .ok .string := rfl
  have hdata : cutText.decoded = true → cutText.kind.Admits cutText.data := fun _ => ⟨_, rfl⟩
  have hruns : Survives (valueRuns src cutText) := by
    rintro fault ⟨⟩
    rfl
  obtain ⟨w, -, hstands⟩ : ∃ w, ({ label := "utf-8" } : Writer).call Writer.startDocument =
      (.ok (), w) ∧ Stands "utf-8" {} w :=
    Writer.At.startDocument Writer.usable_utf8
  obtain ⟨w', -, htag⟩ := Writer.At.startElement hstands (by decide : isName "hive" = true) trivial
  have hinner : (Growing.opened {} "hive" []).outer ≠ [] := List.cons_ne_nil _ _
  obtain ⟨attributes, texts, runs, htype, hback, -, hwritten, -⟩ :=
    value_givesBack src hshape hdata (by decide) (s := ⟨w', .standard, {}, #[]⟩) htag.holds hinner
      Policy.neverRaises_standard
  exact ⟨hshape, hdata, by decide, Policy.neverRaises_standard, hruns, w', _, htag.holds, hinner,
    attributes, texts, runs, htype, hback, hwritten hruns⟩

end HiveDump.Report
