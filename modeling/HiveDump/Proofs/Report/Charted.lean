import HiveDump.Proofs.Report.Course
import HiveDump.Proofs.Report.Pieces

/-!
# The courses of nodes and values

Every part of a report has a course, in every encoding and on every device. An attribute, an element
as a whole and a value leave open what was open; a node opens an element that is closed when the
node is left. Parts that may be given up fail in a way that can be survived only before they write
anything.

Results:
* `steady_safeAttribute`, `steady_nameAttribute`: attributes;
* `steady_element`, `steady_byteRun`, `steady_timeElement`: elements;
* **`charts_nodeStart`**, `charts_nodeEnd`: nodes;
* **`steady_value`**: values.
-/

namespace HiveDump.Report

open Writer

/-- Whether a part leaves the elements `ns` open as they are. -/
abbrev Steady {α : Type} (retry : Option (List String)) (ns : List String)
    (act : Action Writer α) : Prop :=
  Charts rootName retry ns act fun _ => ns

variable {α : Type} {retry : Option (List String)} {ns : List String}

/-! ## Attributes -/

theorem steady_writeAttribute (name value : String) :
    Steady retry ns (writeAttribute name value) :=
  charts_write (keeps_writeAttribute name value)

theorem steady_base64 (name : String) (data : Bytes) (length : Int) :
    Steady retry ns (do
      Action.write (Writer.startAttribute name)
      Action.write (Writer.writeBase64 data 0 (some length))
      Action.write Writer.endAttribute) := by
  refine (charts_write (keeps_startAttribute name)).bind fun _ => ?_
  refine (charts_write (keeps_writeBase64 data 0 (some length))).bind fun _ => ?_
  exact charts_write keeps_endAttribute

theorem steady_base64Attribute (name encodingName : String) (data : Bytes) :
    Steady retry ns (base64Attribute name encodingName data) :=
  (charts_write (keeps_writeAttribute _ _)).bind fun _ => steady_base64 name data data.length

theorem steady_plainText (d : AttributeData) : Steady retry ns (plainText d) := by
  cases d with
  | text s => exact charts_pure _
  | bytes b =>
    unfold plainText
    dsimp only
    split
    · exact charts_pure _
    · exact charts_throw rfl

theorem steady_safeAttribute (hback : Returns retry ns) (name encodingName : Option String)
    (data : Option AttributeData) : Steady retry ns (safeAttribute name encodingName data) := by
  unfold safeAttribute
  cases data with
  | none => exact charts_raise hback _
  | some data =>
    cases name with
    | none => exact charts_raise hback _
    | some name =>
      cases encodingName with
      | none => exact charts_raise hback _
      | some encodingName =>
        have hplain : Steady retry ns (do
            Action.write (Writer.writeAttribute name (← plainText data))
            return AttributeEncoding.plain) :=
          (steady_plainText data).bind fun text =>
            (steady_writeAttribute name text).bind fun _ => charts_pure _
        have hencoded : Steady retry ns (do
            base64Attribute name encodingName data.terminated
            return AttributeEncoding.base64) :=
          (steady_base64Attribute _ _ _).bind fun _ => charts_pure _
        dsimp only
        obtain ⟨encoding, line⟩ := recommend data
        cases line with
        | none =>
          cases encoding with
          | plain => exact hplain
          | base64 => exact hencoded
        | some line =>
          refine (charts_log line).bind fun _ => ?_
          cases encoding with
          | plain => exact hplain
          | base64 => exact hencoded

theorem steady_nameAttribute (op : Operation) (target : Target) (attributeName : String)
    (name : Option String) (stored : Bytes) :
    Steady none ns (nameAttribute op target attributeName name stored) := by
  unfold nameAttribute
  dsimp only
  split
  · exact steady_base64Attribute _ _ _
  · exact (steady_safeAttribute returns_some _ _ _).attempt op target

/-! ## Elements -/

variable {name : String}

theorem charts_startElement (name : String) :
    Charts rootName retry ns (Action.write (Writer.startElement name)) fun _ => name :: ns :=
  charts_write (keeps_startElement name)

theorem charts_endElement (hname : name ≠ rootName) :
    Charts rootName retry (name :: ns) (Action.write Writer.endElement) fun _ => ns :=
  charts_write (keeps_endElement hname)

/-- An element that is not the root, with everything inside it. -/
theorem steady_element {content : Action Writer α} (hname : name ≠ rootName)
    (h : Steady retry (name :: ns) content) : Steady retry ns (element name content) := by
  refine (charts_startElement name).bind fun _ => h.bind fun a => ?_
  exact (charts_endElement hname).bind fun _ => charts_pure a

theorem steady_timeElement (ticks : Option Int) : Steady retry ns (timeElement ticks) := by
  unfold timeElement
  cases FileTime.optionalText? ticks with
  | none => exact charts_pure false
  | some text =>
    refine (steady_element (by decide) ?_).bind fun _ => charts_pure true
    exact charts_write (keeps_writeText text)

theorem steady_byteRun (offset length : Int) : Steady retry ns (byteRun offset length) :=
  steady_element (by decide) <|
    (steady_writeAttribute _ _).bind fun _ => steady_writeAttribute _ _

theorem steady_nodeByteRuns (hback : Returns retry ns) (src : Source) (n : Node) :
    Steady retry ns (nodeByteRuns src n) :=
  (charts_ask hback _ _).bind fun _ => steady_element (by decide) (steady_byteRun _ _)

theorem steady_valueByteRuns (hback : Returns retry ns) (src : Source) (v : Value) :
    Steady retry ns (valueByteRuns src v) := by
  refine (charts_ask hback _ _).bind fun length =>
    (charts_ask hback _ _).bind fun cell => ?_
  refine steady_element (by decide) ((steady_byteRun _ _).bind fun _ => ?_)
  split
  · exact (steady_byteRun _ _).bind fun _ => charts_pure 2
  · exact charts_pure 1

/-! ## Nodes -/

/-- **A node opens its element.** -/
theorem charts_nodeStart (src : Source) (n : Node) :
    Charts rootName none ns (nodeStart src n) fun _ => "node" :: ns := by
  have htime : Steady none ("node" :: ns) (do
      discard <| timeElement (← nodeTime src n)
      attempt "node_byte_runs" (.node n) (nodeByteRuns src n)) := by
    refine ((charts_ask returns_some _ id).recover _ _ id).bind fun time => ?_
    refine (steady_timeElement _).discard.bind fun _ => ?_
    exact (steady_nodeByteRuns returns_some src n).attempt _ _
  refine (charts_startElement "node").bind fun _ => ?_
  refine (steady_nameAttribute _ _ _ _ _).bind fun _ => ?_
  split
  · exact (steady_writeAttribute _ _).bind fun _ => htime
  · exact htime

theorem charts_nodeEnd : Charts rootName none ("node" :: ns) nodeEnd fun _ => ns :=
  charts_endElement (by decide)

/-! ## Values -/

theorem charts_valueStart (v : Value) (type : String) (encoding : Option AttributeEncoding) :
    Charts rootName none ns (valueStart v type encoding) fun _ => "value" :: ns := by
  have hkey : Steady none ("value" :: ns) (if v.isDefault then writeAttribute "default" "1"
      else nameAttribute "start_value" (.value v) "key" v.key v.storedKey) := by
    split
    · exact steady_writeAttribute _ _
    · exact steady_nameAttribute _ _ _ _ _
  refine (charts_startElement "value").bind fun _ => (steady_writeAttribute _ _).bind fun _ => ?_
  cases encoding with
  | none => exact hkey
  | some e => exact (steady_writeAttribute _ _).bind fun _ => hkey

theorem charts_valueEnd (src : Source) (v : Value) :
    Charts rootName none ("value" :: ns) (valueEnd src v) fun _ => ns := by
  refine ((steady_valueByteRuns returns_some src v).attempt _ _).bind fun _ => ?_
  exact charts_endElement (by decide)

theorem steady_numberAttribute (bits : Nat) (p : Payload) :
    Steady none ns (numberAttribute bits p) := by
  unfold numberAttribute
  split
  · exact steady_writeAttribute _ _
  · exact charts_throw rfl

theorem steady_textElements (v : Value) (entries : List (Option String)) :
    Steady none ns (textElements v entries) :=
  .forM fun _ _ => steady_element (by decide) <|
    (steady_safeAttribute returns_some _ _ _).attempt _ _

theorem steady_payload (shape : Shape) (v : Value) (p : Payload) :
    Steady none ns (payload shape v p) := by
  cases shape with
  | string => exact (steady_safeAttribute returns_some _ _ _).attempt _ _
  | strings => exact steady_textElements v _
  | dword => exact steady_numberAttribute 32 p
  | qword => exact steady_numberAttribute 64 p
  | badString => exact steady_base64 _ _ _
  | binary => exact steady_base64 _ _ _
  | none | other =>
    unfold payload
    dsimp only
    split
    · exact steady_base64 _ _ _
    · exact charts_pure ()

/-- **The element of a value.** -/
theorem steady_value (src : Source) (v : Value) : Steady none ns (value src v) := by
  refine (charts_ask returns_none _ _).bind fun presented => ?_
  refine (charts_ask returns_none _ _).bind fun type => ?_
  refine (charts_valueStart v type _).bind fun _ => ?_
  exact (steady_payload _ v _).bind fun _ => charts_valueEnd src v

end HiveDump.Report
