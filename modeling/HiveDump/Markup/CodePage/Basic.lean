import HiveDump.Bytes

/-!
# Code pages

A code page is a set of at most 256 characters with one byte each. Its first codes stand for the
characters with the same number: the 128 of ASCII, and in many pages also the 32 control characters
behind them. For the other codes it lists what they stand for, which may be nothing. A page may have
characters of its own at some codes (`special`), in place of what these would stand for.

Some pages lack letters with marks but have the marks, which stand behind the letter then
(`compositions`).

Main statement: `char?_of_code?`, the code of a character stands for that character.
-/

namespace HiveDump

/-- Letters that are written as other letters with the same marks, or none, behind them. -/
structure Composition where
  letters : String
  bases : String
  marks : String
  deriving DecidableEq, Repr

/-- The characters that a letter is written as. -/
def Composition.parts? (t : Composition) (c : Char) : Option (List Char) := do
  let base ← t.bases.toList[(← t.letters.toList.idxOf? c)]?
  return base :: t.marks.toList

/-- A set of characters with one byte each. -/
structure CodePage where
  /-- How many codes stand for the characters with the same number. -/
  plain : Nat
  /-- What the codes behind them stand for. -/
  upper : List (Option Char) := []
  /-- Characters at codes that would stand for others. -/
  special : List (Char × Nat) := []
  special_distinct : (special.map Prod.snd).Nodup := by decide
  compositions : List Composition := []
  deriving DecidableEq, Repr

namespace CodePage

/-- What the codes of an upper half stand for, in rows; a blank shows a code that stands for
nothing. -/
def ofRows (plain : Nat) (rows : List String) : CodePage :=
  { plain := plain
    upper := rows.flatMap fun row => row.toList.map fun c => if c = ' ' then none else some c }

/-- The 128 characters that most code pages share. -/
def ascii : CodePage := { plain := 0x80 }

/-- The first 256 characters of all. -/
def latin1 : CodePage := { plain := 0x100 }

/-- The special character at a code. -/
def special? (p : CodePage) (code : Nat) : Option Char :=
  (p.special.find? fun e => e.2 = code).map Prod.fst

/-- What a code would stand for if no character were special. -/
def regular? (p : CodePage) (code : Nat) : Option Char :=
  if code < p.plain then some (Char.ofNat code) else (p.upper[code - p.plain]?).join

/-- What a code stands for. -/
def char? (p : CodePage) (code : Nat) : Option Char :=
  p.special? code <|> p.regular? code

/-- The code of a character that is not special. -/
def regularCode? (p : CodePage) (c : Char) : Option Nat :=
  if c.toNat < p.plain then some c.toNat
  else (p.upper.idxOf? (some c)).map (p.plain + ·)

/-- The code of a character, if the page has it. -/
def code? (p : CodePage) (c : Char) : Option Nat :=
  p.special.lookup c <|> (p.regularCode? c).filter fun code => (p.special? code).isNone

/-- The bytes of a character, or of the letter and the marks that it is written as. -/
def encode? (p : CodePage) (c : Char) : Option Bytes :=
  let one (c : Char) : Option UInt8 := (p.code? c).map UInt8.ofNat
  (one c).map ([·]) <|> (p.compositions.findSome? fun t => t.parts? c).bind fun cs => cs.mapM one

theorem regular?_of_regularCode? {p : CodePage} {c : Char} {code : Nat}
    (h : p.regularCode? c = some code) : p.regular? code = some c := by
  unfold regularCode? at h
  split at h
  case isTrue plain =>
    obtain rfl := Option.some.inj h
    simp [regular?, plain]
  case isFalse =>
    obtain ⟨i, hi, rfl⟩ := Option.map_eq_some_iff.1 h
    have found : p.upper[i]? = some (some c) := by
      simp only [List.idxOf?, List.findIdx?_eq_some_iff_getElem] at hi
      obtain ⟨bound, same, _⟩ := hi
      rw [List.getElem?_eq_getElem bound]
      simpa using same
    have behind : ¬ p.plain + i < p.plain := by omega
    simp [regular?, behind, found]

theorem find?_of_lookup {c : Char} {code : Nat} {entries : List (Char × Nat)}
    (distinct : (entries.map Prod.snd).Nodup) (h : entries.lookup c = some code) :
    entries.find? (fun e => e.2 = code) = some (c, code) := by
  induction entries with
  | nil => simp at h
  | cons e rest ih =>
    obtain ⟨d, n⟩ := e
    rw [List.map_cons, List.nodup_cons] at distinct
    rw [List.lookup_cons] at h
    split at h
    case h_1 same =>
      obtain rfl := Option.some.inj h
      simp [eq_of_beq same]
    case h_2 =>
      have later := ih distinct.2 h
      have listed : code ∈ rest.map Prod.snd :=
        List.mem_map.2 ⟨(c, code), List.mem_of_find?_eq_some later, rfl⟩
      have differs : ¬ n = code := fun same => distinct.1 (same ▸ listed)
      simpa [List.find?_cons, differs] using later

theorem char?_of_code? {p : CodePage} {c : Char} {code : Nat} (h : p.code? c = some code) :
    p.char? code = some c := by
  unfold code? at h
  cases listed : p.special.lookup c with
  | some n =>
    simp only [listed, Option.orElse_eq_orElse, Option.orElse_some] at h
    obtain rfl := Option.some.inj h
    simp [char?, special?, find?_of_lookup p.special_distinct listed]
  | none =>
    simp only [listed, Option.orElse_eq_orElse, Option.orElse_none, Option.filter_eq_some_iff] at h
    simp [char?, Option.isNone_iff_eq_none.1 h.2, regular?_of_regularCode? h.1]

end CodePage

end HiveDump
