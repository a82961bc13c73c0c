import HiveDump.Proofs.Text.Terminated
import Mathlib.Data.List.Basic
import Mathlib.Data.List.TakeWhile

/-!
# Stored texts are read back

A text is stored with a terminator and may hold zero characters of its own, so what is read is the
text up to the first of them. Nothing behind a terminator is looked at: bytes that are no text, and
an odd byte at the end, make no difference.

A list of texts is stored text by text and ends with an empty one. A zero character inside a text
cuts it in two, and an empty piece ends the list, so what is read is all that stands in front of the
first empty piece. Here the bytes behind the end are looked at: what they say does not show, but
they have to be text.

Results:
* **`decodeString?_encodeString_append`**: a text in front of any bytes;
* `splitOn_terminated`: the pieces of the stored texts of a list;
* `decodeStrings?_append_eq`: what is read of a stored list in front of any bytes;
* **`decodeStrings?_encodeStrings`**: when it is the list that was stored;
* **`decodeStrings?_encodeStrings_append`**: and when it is, in front of other bytes.
-/

namespace HiveDump.Utf16

theorem encode_append (cs cs' : List Char) : encode (cs ++ cs') = encode cs ++ encode cs' := by
  simp only [encode, List.flatMap_append]

/-- What is taken of a list ends at an element that is refused. -/
theorem takeWhile_append_cons_of_neg {α : Type} {p : α → Bool} {a : α} (ha : p a = false)
    (l m : List α) : (l ++ a :: m).takeWhile p = l.takeWhile p := by
  induction l with
  | nil => simp [ha]
  | cons x l ih => simp only [List.cons_append, List.takeWhile_cons, ih]

/-! ## Texts -/

/-- **A text is read up to its first zero character**, whatever stands behind its terminator. -/
theorem decodeString?_encodeString_append (t : String) (b : Bytes) :
    decodeString? (encodeString t ++ b) =
      some (String.ofList (t.toList.takeWhile (· ≠ '\x00'))) := by
  have hmem : '\x00' ∈ t.toList ++ ['\x00'] := List.mem_append_right _ List.mem_cons_self
  have hcut : untilNul (encodeString t ++ b) = encode (t.toList.takeWhile (· ≠ '\x00')) := by
    rw [encodeString, untilNul_encode_append, if_pos hmem, List.append_nil,
      takeWhile_append_cons_of_neg (by simp)]
  rw [decodeString?, hcut, decode?_eq_some.mpr rfl]
  rfl

/-- Behind the terminator, half of a pair and an odd byte. -/
example : decodeString? (encodeString "a😀" ++ [0x00, 0xD8, 0x41]) = some "a😀" := by decide

/-! ## Lists of texts -/

/-- A text is cut at its zero characters. -/
theorem pieces_eq_splitOn (cs : List Char) : pieces cs = cs.splitOn '\x00' := by
  induction cs with
  | nil => rfl
  | cons c cs ih =>
    rw [pieces, ih, List.splitOn_cons_eq_if_modifyHead]
    simp only [beq_iff_eq]
    split
    · rfl
    · cases hpieces : cs.splitOn '\x00' with
      | nil => exact absurd hpieces (List.splitOn_ne_nil _ _)
      | cons p ps => rfl

theorem encodeStrings_eq (ss : List String) :
    encodeStrings ss = encode (ss.flatMap (fun s => s.toList ++ ['\x00']) ++ ['\x00']) := by
  rw [encode_append]
  rfl

/-- **The pieces of the stored texts of a list** are those of the texts, in order, with an empty one
behind them; then come those of what follows the list. -/
theorem splitOn_terminated (ss : List String) (cs : List Char) :
    (ss.flatMap (fun s => s.toList ++ ['\x00']) ++ '\x00' :: cs).splitOn '\x00' =
      ss.flatMap (fun s => s.toList.splitOn '\x00') ++ [] :: cs.splitOn '\x00' := by
  induction ss with
  | nil => exact List.splitOn_append_cons_self [] cs
  | cons s ss ih =>
    rw [List.flatMap_cons, List.append_assoc, List.append_assoc, List.singleton_append,
      List.splitOn_append_cons_self, ih, List.flatMap_cons, List.append_assoc]

/-- The texts between the zero characters of a text. -/
def split (s : String) : List String :=
  (s.toList.splitOn '\x00').map String.ofList

/-- A text without zero characters is its only piece. -/
theorem split_of_not_mem {s : String} (h : '\x00' ∉ s.toList) : split s = [s] := by
  rw [split, List.splitOn_eq_singleton h, List.map_singleton, String.ofList_toList]

/-- The texts of a list without empty texts and zero characters are its pieces. -/
theorem takeWhile_split {ss : List String} (hss : ∀ s ∈ ss, s ≠ "" ∧ '\x00' ∉ s.toList) :
    (ss.flatMap split).takeWhile (· ≠ "") = ss := by
  rw [List.flatMap_congr fun s hs => split_of_not_mem (hss s hs).2, List.flatMap_singleton',
    List.takeWhile_eq_self_iff]
  exact fun s hs => decide_eq_true (hss s hs).1

/-- **What is read of a stored list** stands in front of the first empty piece. The bytes behind the
list do not show, but if they are no text nothing is read at all. -/
theorem decodeStrings?_append_eq (ss : List String) (b : Bytes) :
    decodeStrings? (encodeStrings ss ++ b) =
      (decode? b).map fun _ => (ss.flatMap split).takeWhile (· ≠ "") := by
  have hpieces (cs : List Char) :
      (pieces (ss.flatMap (fun s => s.toList ++ ['\x00']) ++ ['\x00'] ++ cs)).takeWhile (· ≠ []) =
        (ss.flatMap fun s => s.toList.splitOn '\x00').takeWhile (· ≠ []) := by
    rw [pieces_eq_splitOn, List.append_assoc, List.singleton_append, splitOn_terminated,
      takeWhile_append_cons_of_neg (by simp)]
  have hempty : (fun s : String => decide (s ≠ "")) ∘ String.ofList =
      fun cs : List Char => decide (cs ≠ []) := by
    funext cs
    simp
  have hsplit : ss.flatMap split =
      (ss.flatMap fun s => s.toList.splitOn '\x00').map String.ofList := List.map_flatMap.symm
  rw [decodeStrings?, encodeStrings_eq, decode?_encode_append, Option.map_map, hsplit,
    List.takeWhile_map, hempty]
  congr 1
  funext cs
  exact congrArg (List.map String.ofList) (hpieces cs)

theorem decodeStrings?_encodeStrings_eq (ss : List String) :
    decodeStrings? (encodeStrings ss) = some ((ss.flatMap split).takeWhile (· ≠ "")) := by
  have happend := decodeStrings?_append_eq ss []
  rw [List.append_nil] at happend
  exact happend

/-- **A list of texts is read up to the first empty piece of its texts**; so it is read as it was
stored exactly if no text is empty or holds a zero character. -/
theorem decodeStrings?_encodeStrings (ss : List String) :
    decodeStrings? (encodeStrings ss) = some ((ss.flatMap split).takeWhile (· ≠ "")) ∧
      (decodeStrings? (encodeStrings ss) = some ss ↔ ∀ s ∈ ss, s ≠ "" ∧ '\x00' ∉ s.toList) := by
  refine ⟨decodeStrings?_encodeStrings_eq ss, nul_not_mem_of_decodeStrings?, fun hss => ?_⟩
  rw [decodeStrings?_encodeStrings_eq, takeWhile_split hss]

/-! ## Bytes behind the end of a list -/

/-- **A list of texts is read in front of other bytes exactly if these are text**, whatever text they
are; in front of any others nothing of it is read. -/
theorem decodeStrings?_encodeStrings_append {ss : List String}
    (hss : ∀ s ∈ ss, s ≠ "" ∧ '\x00' ∉ s.toList) (b : Bytes) :
    (decodeStrings? (encodeStrings ss ++ b) = some ss ↔ IsText b) ∧
      (decodeStrings? (encodeStrings ss ++ b) = none ↔ ¬ IsText b) := by
  rw [decodeStrings?_append_eq, takeWhile_split hss, ← decode?_eq_none_iff]
  cases hb : decode? b with
  | none => simpa using decode?_eq_none_iff.mp hb
  | some cs => simpa using isText_iff.mpr ⟨cs, hb⟩

theorem decodeStrings?_encodeStrings_append_stale :
    (∀ s ∈ ["a", "b"], s ≠ "" ∧ '\x00' ∉ s.toList) ∧
      decodeStrings? (encodeStrings ["a", "b"] ++ [0x78, 0x00]) = some ["a", "b"] ∧
      IsText [0x78, 0x00] := by
  have hss : ∀ s ∈ ["a", "b"], s ≠ "" ∧ '\x00' ∉ s.toList := by decide
  have hb : IsText [0x78, 0x00] := ⟨"x", by decide⟩
  exact ⟨hss, (decodeStrings?_encodeStrings_append hss _).1.mpr hb, hb⟩

/-- One byte behind a list keeps it from being read; behind a single text it does not. -/
theorem decodeStrings?_oddByte :
    (∀ s ∈ ["a"], s ≠ "" ∧ '\x00' ∉ s.toList) ∧
      decodeStrings? (encodeStrings ["a"] ++ [0x41]) = none ∧
      decodeString? (encodeString "a" ++ [0x41]) = some "a" := by
  decide

end HiveDump.Utf16
