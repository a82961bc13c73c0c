import HiveDump.Markup.Call
import HiveDump.Proofs.Markup.WriterCalls
import HiveDump.Proofs.Text.Base64

/-!
# Attributes whose content comes in pieces

An attribute is begun, given its content in pieces of bytes, and ended. A piece is cut out of some
data: as many bytes from a position on as it is to have, as far as there are any, or all of them.
Nothing is written for a piece; the bytes are gathered, and written in base64 as one when the
attribute ends. So neither the lengths of the pieces nor the data around them make a difference, and
pieces that are empty make none at all.

Results:
* `afterAll?_pieces`: pieces in a row, in front of further calls;
* `afterAll?_spelling`: an attribute in front of further calls is the one that they write;
* **`spells_joined`**: what the attribute holds, and where it can be begun.
-/

namespace HiveDump.Writer

/-! ## Pieces -/

/-- A piece of some data: from a position on, and up to the end unless it has a length. -/
structure Piece where
  data : Bytes
  start : Nat := 0
  length : Option Nat := none
  deriving DecidableEq, Repr

namespace Piece

/-- The bytes of a piece, as far as there are any. -/
def bytes (p : Piece) : Bytes :=
  match p.length with
  | some n => (p.data.drop p.start).take n
  | none => p.data.drop p.start

/-- The call that gives a piece to the open attribute. -/
def call (p : Piece) : Call :=
  .writeBase64 p.data p.start (p.length.map Int.ofNat)

/-- The bytes of pieces, one behind the other. -/
def joined (pieces : List Piece) : Bytes :=
  pieces.flatMap bytes

end Piece

open Piece

/-- The calls that write an attribute in pieces. -/
def spelling (name : String) (pieces : List Piece) : List Call :=
  .startAttribute name :: pieces.map Piece.call ++ [.endAttribute]

theorem Piece.slice_eq_bytes (p : Piece) :
    p.data.slice p.start ((p.length.map Int.ofNat).elim (p.data.length : Int)
      ((p.start : Int) + ·)) = p.bytes := by
  obtain ⟨data, start, _ | n⟩ := p
  · have hrest := Bytes.slice_natCast data start data.length
    rwa [List.take_length] at hrest
  · have hpart := Bytes.slice_natCast data start (start + n)
    rwa [List.drop_take, Nat.add_sub_cancel_left, Int.natCast_add] at hpart

/-! ## Calls in a row -/

variable {w : Writer} {tag : PendingTag} {name : String}

theorem afterAll?_of_ok {w' : Writer} {c : Call} (h : w.call c.act = (.ok (), w'))
    (calls : List Call) : w.afterAll? (c :: calls) = w'.afterAll? calls := by
  rw [afterAll?, h]

theorem afterAll?_of_error {w' : Writer} {c : Call} {fault : WriteFault}
    (h : w.call c.act = (.error fault, w')) (calls : List Call) :
    w.afterAll? (c :: calls) = none := by
  rw [afterAll?, h]

theorem afterAll?_congr {w' : Writer} {c c' : Call} (h : w.call c.act = w'.call c'.act)
    (calls : List Call) : w.afterAll? (c :: calls) = w'.afterAll? (c' :: calls) := by
  rw [afterAll?, afterAll?, h]

/-- Pieces are put behind what the attribute holds. -/
theorem afterAll?_pieces (w : Writer) (a : PendingAttribute) (pieces : List Piece)
    (calls : List Call) :
    ({ w with openAttribute := some a } : Writer).afterAll? (pieces.map Piece.call ++ calls) =
      ({ w with openAttribute := some ⟨a.name, a.content ++ joined pieces⟩ } : Writer).afterAll?
        calls := by
  induction pieces generalizing a with
  | nil => rw [joined, List.flatMap_nil, List.append_nil]; rfl
  | cons p pieces ih =>
    have hpiece := call_writeBase64 w a p.data p.start (p.length.map Int.ofNat)
    rw [p.slice_eq_bytes] at hpiece
    rw [List.map_cons, List.cons_append, afterAll?_of_ok hpiece, ih, joined, joined,
      List.flatMap_cons, List.append_assoc]

/-- An attribute that comes in pieces is one that is written at once. -/
theorem afterAll?_spelling (hp : w.pending = some tag) (hopen : w.openAttribute = none)
    (pieces : List Piece) (calls : List Call) :
    w.afterAll? (spelling name pieces ++ calls) =
      w.afterAll? (.writeAttribute name (Base64.text (joined pieces)) :: calls) := by
  have hstart := call_startAttribute hp name
  rw [hopen] at hstart
  have hend : ({ w with openAttribute := some ⟨name, joined pieces⟩ } : Writer).call
      Call.endAttribute.act =
        w.call (Call.writeAttribute name (Base64.text (joined pieces))).act :=
    call_endAttribute hopen ⟨name, joined pieces⟩
  have hcalls : spelling name pieces ++ calls =
      .startAttribute name :: (pieces.map Piece.call ++ .endAttribute :: calls) := by
    simp [spelling]
  rw [hcalls, afterAll?_of_ok hstart, afterAll?_pieces, List.nil_append]
  exact afterAll?_congr hend calls

/-- It is not begun while another one is open. -/
theorem afterAll?_spelling_of_open (hp : w.pending = some tag) (hopen : w.openAttribute ≠ none)
    (pieces : List Piece) : w.afterAll? (spelling name pieces) = none := by
  obtain ⟨a, ha⟩ := Option.ne_none_iff_exists'.mp hopen
  have hstart := call_startAttribute hp name
  rw [ha] at hstart
  exact afterAll?_of_error hstart _

/-- **An attribute that comes in pieces holds in base64 the bytes of the pieces, one behind the
other**, and nothing else of the pieces shows; reading the attribute gives these bytes back. A start
tag without the attribute takes it, unless it is just taking another one in pieces. -/
theorem spells_joined (hp : w.pending = some tag) (hnew : name ∉ tag.attributes.map (·.name))
    (pieces : List Piece) :
    ∃ value : String, Base64.Spells value.toList (joined pieces) ∧
      Base64.decode? value.toList = some (joined pieces) ∧
      (∀ w', w.afterAll? (spelling name pieces) = some w' ↔
        w.openAttribute = none ∧ w' = w.adding tag [⟨name, value⟩]) ∧
      ∀ others, joined others = joined pieces →
        w.afterAll? (spelling name others) = w.afterAll? (spelling name pieces) := by
  have hwrite := call_writeAttribute hp hnew (Base64.text (joined pieces))
  refine ⟨Base64.text (joined pieces), ?_, Base64.decode?_text _, fun w' => ?_, fun others heq => ?_⟩
  · rw [Base64.text, String.toList_ofList]
    exact Base64.spells_encode _
  · by_cases hopen : w.openAttribute = none
    · rw [← List.append_nil (spelling name pieces), afterAll?_spelling hp hopen,
        afterAll?_of_ok hwrite, afterAll?, Option.some.injEq, and_iff_right hopen, eq_comm]
    · rw [afterAll?_spelling_of_open hp hopen]
      exact iff_of_false (Option.some_ne_none w').symm fun h => hopen h.1
  · by_cases hopen : w.openAttribute = none
    · rw [← List.append_nil (spelling name others), ← List.append_nil (spelling name pieces),
        afterAll?_spelling hp hopen, afterAll?_spelling hp hopen, heq]
    · rw [afterAll?_spelling_of_open hp hopen, afterAll?_spelling_of_open hp hopen]

/-- A writer whose start tag has an attribute. -/
def tagged : Writer :=
  { label := "utf-8", stage := .writing, pending := some { name := "e", attributes := [⟨"n", ""⟩] } }

/-- Pieces of two lengths that are no multiples of three, and one that starts behind its data. -/
def cuts : List Piece :=
  [{ data := [0, 1, 2, 3], start := 1, length := some 2 }, { data := [7], start := 2 },
    { data := [255] }]

theorem spells_joined_cuts :
    tagged.pending = some { name := "e", attributes := [⟨"n", ""⟩] } ∧ "value" ∉ ["n"] ∧
      joined cuts = [1, 2, 255] ∧ Base64.decode? "AQL/".toList = some [1, 2, 255] ∧
      tagged.afterAll? (spelling "value" cuts) =
        some (tagged.adding { name := "e", attributes := [⟨"n", ""⟩] } [⟨"value", "AQL/"⟩]) := by
  have hp : tagged.pending = some { name := "e", attributes := [⟨"n", ""⟩] } := rfl
  have hnew : "value" ∉ [(⟨"n", ""⟩ : Attribute)].map (·.name) := by decide
  obtain ⟨value, hspells, hdecode, hrun, -⟩ := spells_joined hp hnew cuts
  have hvalue : value = "AQL/" := String.toList_inj.mp (Base64.spells_iff.mp hspells)
  rw [hvalue] at hdecode hrun
  exact ⟨hp, hnew, rfl, hdecode, (hrun _).mpr ⟨rfl, rfl⟩⟩

end HiveDump.Writer
