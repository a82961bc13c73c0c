/-!
# Planes of characters

The East Asian sets number a character by its row and its place in the row. A `Plane` lists the rows
of such a set; an encoding turns the two numbers into bytes.

Main statement: `char?_of_find?`, what is found for a character stands for that character.
-/

namespace HiveDump

/-- A set of characters in rows. -/
structure Plane where
  rows : List (List Char)
  deriving DecidableEq, Repr

namespace Plane

/-- What shows a place that holds nothing. -/
def gap : Char := ' '

/-- A plane whose rows are given as texts. -/
def ofRows (rows : List String) : Plane :=
  { rows := rows.map String.toList }

/-- The row of a character and its place there, both counted from zero; `row` is the number of the
first of these rows. -/
def search (c : Char) (row : Nat) : (rows : List (List Char)) → Option (Nat × Nat)
  | [] => none
  | cs :: rest =>
    match cs.idxOf? c with
    | some place => some (row, place)
    | none => search c (row + 1) rest

/-- The row of a character and its place there. -/
def find? (p : Plane) (c : Char) : Option (Nat × Nat) :=
  if c = gap then none else search c 0 p.rows

/-- Whether a plane holds a character. -/
def holds (p : Plane) (c : Char) : Bool :=
  (p.find? c).isSome

/-- How many characters have a code from `start` up to, but not including, `stop`. -/
def count (p : Plane) (start stop : Nat) : Nat :=
  p.rows.foldl (fun n cs => n + cs.countP fun c => start ≤ c.toNat && c.toNat < stop) 0

/-- The position of a character among those with codes from `first` to `last` that the plane
lacks. -/
def rank? (p : Plane) (first last : Nat) (c : Char) : Option Nat :=
  if first ≤ c.toNat ∧ c.toNat ≤ last ∧ !p.holds c then
    some (c.toNat - first - p.count first c.toNat)
  else none

/-- The character at a place. -/
def char? (p : Plane) (row place : Nat) : Option Char :=
  ((p.rows[row]?).bind fun cs => cs[place]?).filter fun c => c ≠ gap

theorem getElem?_of_search {c : Char} {rows : List (List Char)} {first row place : Nat}
    (h : search c first rows = some (row, place)) :
    first ≤ row ∧ (rows[row - first]?).bind (fun cs => cs[place]?) = some c := by
  induction rows generalizing first with
  | nil => simp [search] at h
  | cons cs rest ih =>
    rw [search] at h
    split at h
    case h_1 found =>
      obtain ⟨rfl, rfl⟩ := Prod.mk.inj (Option.some.inj h)
      obtain ⟨bound, same, _⟩ := List.findIdx?_eq_some_iff_getElem.1 found
      refine ⟨Nat.le_refl _, ?_⟩
      simpa [List.getElem?_eq_getElem bound] using same
    case h_2 =>
      obtain ⟨le, at_row⟩ := ih h
      have shift : row - first = row - (first + 1) + 1 := by omega
      exact ⟨by omega, by simpa [shift] using at_row⟩

theorem char?_of_find? {p : Plane} {c : Char} {row place : Nat}
    (h : p.find? c = some (row, place)) : p.char? row place = some c := by
  unfold find? at h
  split at h
  case isTrue => contradiction
  case isFalse notGap =>
    obtain ⟨_, there⟩ := getElem?_of_search h
    rw [Nat.sub_zero] at there
    rw [char?, there]
    simp [Option.filter, notGap]

end Plane

end HiveDump
