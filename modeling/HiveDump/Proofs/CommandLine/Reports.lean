import HiveDump.CommandLine.Run
import HiveDump.Proofs.Conversion.Images
import HiveDump.Proofs.Image.LastBin
import HiveDump.Proofs.Report.Outcome

/-!
# What a run on a file reports

A run on a file that opens, or of which opening says that it is no hive, ends with status 0 behind a
complete document and with status 1 behind one line about what went wrong, and never otherwise,
unless the conversion comes to a node whose time stamp lies across the start of the image. The
question for such a time stamp is not answered with a fault of the program's own, so the run ends
with it and reports nothing.

Results:
* `complete_of_ok`, `not_isDocument_of_error`: the document tells whether a conversion succeeded;
* `endsLine_told`, `oneLine_opening`: the diagnostics, and the line behind them;
* **`run_reports_iff`**: when a run reports its outcome, and how it ends if it does not;
* `ending_of_straddling`: the images with a node in their last cell.
-/

namespace HiveDump

open Markup Report Conversion

namespace CommandLine

/-! ## What is to be reported -/

/-- Whether a text is made of whole lines. -/
def EndsLine (s : String) : Prop :=
  s = "" ∨ ∃ t, s = t ++ "\n"

/-- Whether a text stays in one line. -/
def OneLine (s : String) : Prop :=
  '\n' ∉ s.toList

instance (s : String) : Decidable (OneLine s) :=
  inferInstanceAs (Decidable ('\n' ∉ s.toList))

/-- Whether a run prints nothing but a document and ends with status 0 or 1, with 0 if and only if
the document is complete, and with 1 behind one line that names the program and says what went
wrong. -/
structure Result.Reports (r : Result) : Prop where
  output : r.output = ""
  status : r.ending = .status 0 ∨ r.ending = .status 1
  complete : r.ending = .status 0 ↔
    IsDocument r.document ∧ Utf8.encode "</hive>" <:+ r.document
  diagnosed : r.ending = .status 1 →
    ∃ before text, r.errors = before ++ s!"{program}: {text}\n" ∧ EndsLine before ∧ OneLine text

/-! ## Lines -/

theorem oneLine_of_printable {s : String} (h : Printable s) : OneLine s := by
  intro hmem
  obtain ⟨hlow, -⟩ := h _ hmem
  exact absurd hlow (by decide)

theorem oneLine_append {s t : String} : OneLine (s ++ t) ↔ OneLine s ∧ OneLine t := by
  simp [OneLine]

theorem endsLine_append {s t : String} (hs : EndsLine s) (ht : EndsLine t) : EndsLine (s ++ t) := by
  rcases ht with rfl | ⟨u, rfl⟩
  · rwa [String.append_empty]
  · exact .inr ⟨s ++ u, by rw [String.append_assoc]⟩

theorem endsLine_join {lines : List String} (h : ∀ line ∈ lines, EndsLine line) :
    EndsLine (String.join lines) := by
  induction lines with
  | nil => exact .inl rfl
  | cons line lines ih =>
    obtain ⟨hline, hlines⟩ := List.forall_mem_cons.mp h
    rw [String.join_cons]
    exact endsLine_append hline (ih hlines)

/-- **The diagnostics of a run are whole lines.** -/
theorem endsLine_told (threshold : Severity) (ds : List Diagnostic) :
    EndsLine (String.join (ds.map (diagnosticLine threshold))) := by
  refine endsLine_join fun line hline => ?_
  obtain ⟨d, -, rfl⟩ := List.mem_map.mp hline
  cases d with
  | warning text => exact .inr ⟨text, rfl⟩
  | log entry =>
    change EndsLine (if entry.reaches threshold then _ else _)
    split
    · exact .inr ⟨s!"{program}: {entry.channel.name}: {entry.message}", rfl⟩
    · exact .inl rfl

/-! ## Documents -/

/-- A document ends with the end tag of its root. -/
theorem endTag_suffix {attributes : List Attribute} {inside : List Tree} {b : Bytes}
    (h : Writes (.element rootName attributes inside) b) : Utf8.encode "</hive>" <:+ b := by
  obtain ⟨-, -, rfl⟩ := h
  refine ⟨encode .utf8 (.declaration "utf-8" :: .startTag rootName attributes ::
    Tree.forestTokens inside), ?_⟩
  have hlast : Utf8.encode "</hive>" = encode .utf8 [.endTag rootName] := by decide
  rw [hlast, Tree.document, Tree.tokens, ← List.cons_append, ← List.cons_append, encode_append rfl]

variable {config : Config} {src : Source} {trace : List LogLine}

/-- The document of a conversion that succeeds is complete. -/
theorem complete_of_ok (hvalid : config.complaints = .ok []) (hencoding : config.encoding = "utf-8")
    {tally : Tally} (h : (convertWith config .working (.ok src, trace)).result = .ok tally) :
    IsDocument ((convertWith config .working (.ok src, trace)).document.getD []) ∧
      Utf8.encode "</hive>" <:+
        (convertWith config .working (.ok src, trace)).document.getD [] := by
  obtain ⟨w, hleaves, hdocument⟩ := convertWith_leaves src trace hvalid hencoding
  rw [hdocument]
  rcases hleaves with ⟨_, root, -, ⟨time, node, rfl, -⟩, hwell, hw⟩ | ⟨fault, hfault, -⟩
  · have hwrites : Writes (.element rootName [] (time ++ [node])) (w.bytes?.getD []) :=
      ⟨trivial, hwell, hw.bytes⟩
    exact ⟨⟨_, hwrites⟩, endTag_suffix hwrites⟩
  · rw [hfault] at h
    cases h

/-- The document of a conversion that fails is not. -/
theorem not_isDocument_of_error (hvalid : config.complaints = .ok [])
    (hencoding : config.encoding = "utf-8") {fault : Fault}
    (h : (convertWith config .working (.ok src, trace)).result = .error fault) :
    ¬IsDocument ((convertWith config .working (.ok src, trace)).document.getD []) := by
  obtain ⟨w, hleaves, hdocument⟩ := convertWith_leaves src trace hvalid hencoding
  rw [hdocument]
  rcases hleaves with ⟨tally, root, htally, -⟩ | ⟨_, -, g, ts, more, hpart, hw⟩
  · rw [htally] at h
    cases h
  · rw [hw.bytes]
    exact hpart.not_isDocument

/-! ## The line about a fault -/

/-- The line about a fault names the program first, and may name the file. -/
theorem exists_faultLine (file : String) {fault : Fault} (hfault : OneLine fault.message)
    (hfile : namesItself fault.kind = false → OneLine file) :
    ∃ text, faultLine file fault = s!"{program}: {text}\n" ∧ OneLine text := by
  unfold faultLine
  cases hself : namesItself fault.kind with
  | true => exact ⟨fault.message, rfl, hfault⟩
  | false =>
    refine ⟨s!"{file}: {fault.message}", ?_, ?_⟩
    · change program ++ ": " ++ file ++ ": " ++ fault.message ++ "\n" =
        program ++ ": " ++ (file ++ ": " ++ fault.message) ++ "\n"
      simp only [String.append_assoc]
    · exact oneLine_append.mpr ⟨oneLine_append.mpr ⟨hfile hself, by decide⟩, hfault⟩

/-- Opening says in one line that a file is no hive. -/
theorem oneLine_opening {file : String} {content : ByteArray} {tracing : Bool} {fault : Fault}
    (hfile : OneLine file) (h : (HiveFile.ofFile file content tracing).1 = .error fault)
    (hkind : fault.kind = .opening) : OneLine fault.message := by
  have hreason {reason : OpenReason} (hr : OneLine reason.message) :
      OneLine (Fault.unopenable file reason).message :=
    oneLine_append.mpr ⟨oneLine_append.mpr ⟨hfile, by decide⟩, hr⟩
  unfold HiveFile.ofFile HiveFile.ofImage at h
  split at h
  · cases h
    exact hreason (by decide)
  · split at h
    next reason hroot =>
      cases h
      refine hreason (oneLine_append.mpr ⟨oneLine_append.mpr ⟨by decide, ?_⟩, by decide⟩)
      exact oneLine_of_printable (printable_recordFault reason)
    next record hroot =>
      split at h
      next reason hnode =>
        cases h
        cases reason <;> cases hkind
      next root hnode => cases h

/-! ## Conversions of files -/

variable {read : String → Except Fault ByteArray} {i : Invocation} {file : String}
  {content : ByteArray} {fault : Fault}

/-- The conversion that a run makes of a file with this content. -/
def conversionOf (i : Invocation) (file : String) (content : ByteArray) : Outcome :=
  convertWith { debug := i.debug, skipBad := i.keepGoing } .working
    ((HiveFile.ofFile file content i.debug).1.map HiveFile.source,
      (HiveFile.ofFile file content i.debug).2)

/-- The diagnostics of a conversion that a run shows. -/
def toldOf (i : Invocation) (outcome : Outcome) : String :=
  String.join (outcome.diagnostics.map
    (diagnosticLine (if i.debug then Severity.debug else .warning)))

theorem convertFile_of_ok (hread : read file = .ok content) {tally : Tally}
    (h : (conversionOf i file content).result = .ok tally) :
    convertFile read .working i file =
      { ending := .status 0
        errors := toldOf i (conversionOf i file content)
        document := (conversionOf i file content).document.getD [] } := by
  unfold conversionOf at h
  unfold convertFile
  rw [hread]
  dsimp only
  rw [h]
  rfl

theorem convertFile_of_error (hread : read file = .ok content)
    (h : (conversionOf i file content).result = .error fault) :
    convertFile read .working i file =
      if fault.kind.isOwn then
        { ending := .status 1
          errors := toldOf i (conversionOf i file content) ++ faultLine file fault
          document := (conversionOf i file content).document.getD [] }
      else
        { ending := .fault fault
          errors := toldOf i (conversionOf i file content)
          document := (conversionOf i file content).document.getD [] } := by
  unfold conversionOf at h
  unfold convertFile
  rw [hread]
  dsimp only
  rw [h]
  rfl

/-! ## The three ends of a run -/

/-- A conversion that succeeds. -/
theorem reports_of_ok (hread : read file = .ok content) {tally : Tally}
    (h : (conversionOf i file content).result = .ok tally)
    (hcomplete : IsDocument ((conversionOf i file content).document.getD []) ∧
      Utf8.encode "</hive>" <:+ (conversionOf i file content).document.getD []) :
    (convertFile read .working i file).Reports := by
  rw [convertFile_of_ok hread h]
  exact ⟨rfl, .inl rfl, ⟨fun _ => hcomplete, fun _ => rfl⟩, nofun⟩

/-- One that fails with a fault of the program's own. -/
theorem reports_of_own (hread : read file = .ok content)
    (h : (conversionOf i file content).result = .error fault) (hown : fault.kind.isOwn = true)
    (hname : OneLine file) (hline : OneLine fault.message)
    (hcut : ¬IsDocument ((conversionOf i file content).document.getD [])) :
    (convertFile read .working i file).Reports := by
  rw [convertFile_of_error hread h, if_pos hown]
  refine ⟨rfl, .inr rfl, ⟨nofun, fun hcomplete => absurd hcomplete.1 hcut⟩, fun _ => ?_⟩
  obtain ⟨text, htext, hone⟩ := exists_faultLine file hline fun _ => hname
  exact ⟨toldOf i (conversionOf i file content), text,
    congrArg (toldOf i (conversionOf i file content) ++ ·) htext, endsLine_told _ _, hone⟩

/-- One that fails with another fault. -/
theorem ending_of_foreign (hread : read file = .ok content)
    (h : (conversionOf i file content).result = .error fault) (hown : fault.kind.isOwn = false) :
    (convertFile read .working i file).ending = .fault fault := by
  rw [convertFile_of_error hread h, if_neg (by simp [hown])]

theorem not_reports_of_fault {r : Result} (h : r.ending = .fault fault) : ¬r.Reports := by
  rintro ⟨-, hstatus, -, -⟩
  rw [h] at hstatus
  rcases hstatus with hzero | hone
  · cases hzero
  · cases hone

theorem not_isDocument_nil : ¬IsDocument [] := by
  rintro ⟨root, -, -, hbytes⟩
  rw [encode_utf8] at hbytes
  have hrender := Utf8.encodeChars_injective (s := []) hbytes
  rw [Tree.document, render_cons] at hrender
  exact absurd (List.append_eq_nil_iff.mp hrender.symm).1 (by decide)

/-! ## Runs on files -/

/-- What a run converts if the file is no hive. -/
theorem conversionOf_error (h : (HiveFile.ofFile file content i.debug).1 = .error fault) :
    (conversionOf i file content).result = .error fault ∧
      (conversionOf i file content).document = none := by
  have hvalid : ({ debug := i.debug, skipBad := i.keepGoing } : Config).complaints = .ok [] :=
    complaints_standard
  unfold conversionOf
  rw [h]
  have hhindrance : hindrance? { debug := i.debug, skipBad := i.keepGoing }
      (.error fault, (HiveFile.ofFile file content i.debug).2) =
        some (fault, (HiveFile.ofFile file content i.debug).2.map .log) := by
    unfold hindrance?
    rw [hvalid]
  rw [Except.map, convertWith_of_hindrance hhindrance]
  exact ⟨rfl, rfl⟩

theorem exists_ofImage {tracing : Bool} {h : HiveFile}
    (ho : (HiveFile.ofFile file content tracing).1 = .ok h) :
    ∃ opened, HiveFile.ofImage file ⟨content⟩ tracing = (.ok h, opened) := by
  unfold HiveFile.ofFile at ho
  split at ho
  · cases ho
  · exact ⟨_, Prod.ext ho rfl⟩

/-- A run on a file of which opening says that it is no hive. -/
theorem reports_of_unopened (hname : OneLine file) (hread : read file = .ok content)
    (h : (HiveFile.ofFile file content i.debug).1 = .error fault) (hkind : fault.kind = .opening) :
    (convertFile read .working i file).Reports := by
  obtain ⟨hresult, hdocument⟩ := conversionOf_error h
  refine reports_of_own hread hresult (by rw [hkind]; rfl) hname (oneLine_opening hname h hkind) ?_
  rw [hdocument]
  exact not_isDocument_nil

/-- The conversion of a file that opens. -/
theorem conversionOf_ok {h : HiveFile} (ho : (HiveFile.ofFile file content i.debug).1 = .ok h) :
    conversionOf i file content =
      convertWith { debug := i.debug, skipBad := i.keepGoing } .working
        (.ok h.source, (HiveFile.ofFile file content i.debug).2) := by
  unfold conversionOf
  rw [ho]
  rfl

variable {h : HiveFile} {n : Node}

/-- **A run that comes to a time stamp across the start of the image** ends with a fault that it
does not report. -/
theorem ending_of_stopsAcross (hread : read file = .ok content)
    (ho : (HiveFile.ofFile file content i.debug).1 = .ok h) (hn : h.StopsAcross i.keepGoing n) :
    (convertFile read .working i file).ending = .fault (HiveFile.acrossFault n) := by
  obtain ⟨opened, himage⟩ := exists_ofImage ho
  refine ending_of_foreign hread ?_ rfl
  rw [conversionOf_ok ho]
  exact HiveFile.result_of_stopsAcross himage complaints_standard rfl rfl
    Policy.neverRaises_standard hn

/-- Any other run on a file that opens. -/
theorem reports_of_opened (hname : OneLine file) (hread : read file = .ok content)
    (ho : (HiveFile.ofFile file content i.debug).1 = .ok h)
    (hnone : ∀ n, ¬h.StopsAcross i.keepGoing n) : (convertFile read .working i file).Reports := by
  have hvalid : ({ debug := i.debug, skipBad := i.keepGoing } : Config).complaints = .ok [] :=
    complaints_standard
  obtain ⟨opened, himage⟩ := exists_ofImage ho
  have hresult := HiveFile.result_cases (HiveFile.ofFile file content i.debug).2 himage hvalid rfl
    rfl Policy.neverRaises_standard
  rw [← conversionOf_ok ho] at hresult
  rcases hresult with ⟨tally, hok⟩ | ⟨fault, hown, herror⟩ | ⟨n, hn⟩
  · refine reports_of_ok hread hok ?_
    rw [conversionOf_ok ho] at hok ⊢
    exact complete_of_ok hvalid rfl hok
  · refine reports_of_own hread herror hown.isOwn hname (oneLine_of_printable hown.printable) ?_
    rw [conversionOf_ok ho] at herror ⊢
    exact not_isDocument_of_error hvalid rfl herror
  · exact absurd hn (hnone n)

theorem run_of_plan {arguments : List String} (hplan : Arguments.plan arguments = .run i)
    (hfile : i.file = some file) :
    run read .working arguments = convertFile read .working i file := by
  unfold run
  rw [hplan]
  dsimp only
  rw [hfile]

/-- **When a run on a file reports its outcome.** -/
theorem run_reports_iff {arguments : List String} (hplan : Arguments.plan arguments = .run i)
    (hfile : i.file = some file) (hname : OneLine file) (hread : read file = .ok content)
    (hopen : ∀ fault, (HiveFile.ofFile file content i.debug).1 = .error fault →
      fault.kind = .opening) :
    ((run read .working arguments).Reports ↔
        ∀ h, (HiveFile.ofFile file content i.debug).1 = .ok h →
          ∀ n, ¬h.StopsAcross i.keepGoing n) ∧
      ∀ h n, (HiveFile.ofFile file content i.debug).1 = .ok h → h.StopsAcross i.keepGoing n →
        (run read .working arguments).ending = .fault (HiveFile.acrossFault n) := by
  rw [run_of_plan hplan hfile]
  refine ⟨⟨fun hreports h ho n hn => ?_, fun hnone => ?_⟩,
    fun h n ho hn => ending_of_stopsAcross hread ho hn⟩
  · exact not_reports_of_fault (ending_of_stopsAcross hread ho hn) hreports
  · cases ho : (HiveFile.ofFile file content i.debug).1 with
    | error fault => exact reports_of_unopened hname hread ho (hopen fault ho)
    | ok h => exact reports_of_opened hname hread ho (hnone h ho)

/-! ## A node in the last cell of an image -/

section Straddling

open Layout

variable {im : Image} {head : KeyHead}

theorem ofFile_bytes (hsize : im.size ≠ 0) (file : String) (tracing : Bool) :
    HiveFile.ofFile file im.bytes tracing = HiveFile.ofImage file im tracing :=
  if_neg hsize

theorem ofFile_of_straddling (hs : Straddling im head) (file : String) (tracing : Bool) :
    (HiveFile.ofFile file im.bytes tracing).1 = .ok (opened file im tracing 48 head) := by
  obtain ⟨trace, ho⟩ := hs.ofImage_eq file tracing
  have hsize : im.size ≠ 0 := by
    have hfits := hs.header.fits
    rw [length_header] at hfits
    omega
  rw [ofFile_bytes hsize, ho]

/-- **A run on an image whose last cell holds the subkey of the root** reports nothing, whatever it
was told, although the image opens. -/
theorem ending_of_straddling (hs : Straddling im head) (hread : read file = .ok im.bytes) :
    (convertFile read .working i file).ending = .fault (.record (.acrossStart (-4) 8)) := by
  obtain ⟨n, hhandle, hn⟩ := hs.stopsAcross file i.debug i.keepGoing
  rw [ending_of_stopsAcross hread (ofFile_of_straddling hs file i.debug) hn, HiveFile.acrossFault,
    hhandle]
  rfl

/-- A root for such an image. -/
def straddledRoot : KeyHead :=
  ⟨.oneByte "root", 0, true⟩

theorem straddling_straddledRoot : Straddling (straddlingImage straddledRoot) straddledRoot :=
  straddling_straddlingImage (by decide)

/-- A disk all of whose files hold that image. -/
def straddledDisk (_ : String) : Except Fault ByteArray :=
  .ok (straddlingImage straddledRoot).bytes

theorem run_reports_straddlingImage :
    Arguments.plan ["hive.dat"] = .run { file := some "hive.dat" } ∧ OneLine "hive.dat" ∧
      ∃ h n, (HiveFile.ofFile "hive.dat" (straddlingImage straddledRoot).bytes false).1 = .ok h ∧
        h.StopsAcross false n ∧ ¬(run straddledDisk .working ["hive.dat"]).Reports ∧
        (run straddledDisk .working ["hive.dat"]).ending = .fault (HiveFile.acrossFault n) := by
  have hs := straddling_straddledRoot
  have hplan : Arguments.plan ["hive.dat"] = .run { file := some "hive.dat" } := by decide
  have hname : OneLine "hive.dat" := by decide
  have ho := ofFile_of_straddling hs "hive.dat" false
  obtain ⟨n, -, hn⟩ := hs.stopsAcross "hive.dat" false false
  have hread : straddledDisk "hive.dat" = .ok (straddlingImage straddledRoot).bytes := rfl
  obtain ⟨hreports, hending⟩ := run_reports_iff hplan rfl hname hread
    fun fault hfault => absurd (hfault.symm.trans ho) nofun
  exact ⟨hplan, hname, _, n, ho, hn, fun hr => hreports.mp hr _ ho n hn, hending _ n ho hn⟩

/-- The image opens, but the run leaves with a fault of no kind that it reports. -/
theorem not_reports_straddlingImage :
    (∃ h, (HiveFile.ofFile "hive.dat" (straddlingImage straddledRoot).bytes false).1 = .ok h) ∧
      ¬(run straddledDisk .working ["hive.dat"]).Reports := by
  have hs := straddling_straddledRoot
  have hplan : Arguments.plan ["hive.dat"] = .run { file := some "hive.dat" } := by decide
  refine ⟨⟨_, ofFile_of_straddling hs "hive.dat" false⟩, ?_⟩
  rw [run_of_plan hplan rfl]
  exact not_reports_of_fault (ending_of_straddling hs rfl)

end Straddling

end CommandLine

end HiveDump
