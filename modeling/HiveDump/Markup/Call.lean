import HiveDump.Markup.Writer

/-!
# Calls in any order

A caller may make the calls of a writer in any order, and go on after one that failed. `Call` has
a constructor for each of them; `Writer.afterCalls` makes a sequence of them with every failure
caught, and `Writer.afterAll?` makes one that fails nowhere.
-/

namespace HiveDump

/-- A call that can be made to a writer. -/
inductive Call
  /-- Takes a writer for the time being; nothing is done to its document. -/
  | enter
  | startDocument
  | endDocument
  | startElement (name : String)
  | endElement
  | writeAttribute (name value : String)
  | startAttribute (name : String)
  | writeBase64 (data : Bytes) (start : Int := 0) (length : Option Int := none)
  | endAttribute
  | writeText (text : String)
  /-- Lets a writer go. -/
  | release
  deriving DecidableEq, Repr

namespace Call

/-- What a call does. -/
def act : Call → Writing Unit
  | enter => pure ()
  | startDocument => Writer.startDocument
  | endDocument => Writer.endDocument
  | startElement name => Writer.startElement name
  | endElement => Writer.endElement
  | writeAttribute name value => Writer.writeAttribute name value
  | startAttribute name => Writer.startAttribute name
  | writeBase64 data start length => Writer.writeBase64 data start length
  | endAttribute => Writer.endAttribute
  | writeText text => Writer.writeText text
  | release => Writer.release

/-- The name of an element or attribute that a call brings. -/
def name? : Call → Option String
  | startElement name | writeAttribute name _ | startAttribute name => some name
  | enter | startDocument | endDocument | endElement | writeBase64 _ _ _ | endAttribute
  | writeText _ | release => none

/-- The name of the element that a call opens. -/
def opens? : Call → Option String
  | startElement name => some name
  | enter | startDocument | endDocument | endElement | writeAttribute _ _ | startAttribute _
  | writeBase64 _ _ _ | endAttribute | writeText _ | release => none

end Call

/-- A writer behind calls, each made whether the ones in front of it succeeded or not. -/
def Writer.afterCalls (w : Writer) (calls : List Call) : Writer :=
  calls.foldl (fun w c => (w.call c.act).2) w

/-- A writer behind calls all of which succeed. -/
def Writer.afterAll? (w : Writer) : List Call → Option Writer
  | [] => some w
  | c :: calls =>
    match w.call c.act with
    | (.ok _, w') => w'.afterAll? calls
    | (.error _, _) => none

end HiveDump
