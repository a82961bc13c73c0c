import HiveDump.Proofs.Time.Civil
import HiveDump.Time.FileTime
import Mathlib.Data.String.Basic

/-!
# The text of a time stamp names its second

A time stamp stands for a whole second of Universal Time, and its text for a moment of the calendar.
`Moment.read?` reads such a text without knowing how it was written, and `Moment.unixSeconds` counts
the seconds up to a moment by the calendar, not by the steps that found it. Both lead back to the
second the time stamp stands for.

All texts have the same fields of the same widths, so they compare as strings the way the moments
compare in time.

Results:
* **`text?_spec`**: which time stamps have a text, what it says, and that later time stamps have
  later texts;
* `read?_written`: what is written is read;
* `written_lt_of_earlier`: moments compare as their texts do;
* `unixSeconds_ofSecond`, `earlier_ofSecond`: the moment of a second, and the order of moments.
-/

namespace HiveDump

/-! ## Numbers of a fixed width -/

namespace FileTime

theorem length_padded {width n : Nat} (hw : 0 < width) (h : n < 10 ^ width) :
    (padded width n).length = width := by
  have hlen := (Nat.length_toDigits_le_iff (by decide : 1 < 10) hw).mpr h
  simp only [padded, List.length_append, List.length_replicate]
  omega

theorem isDigit_padded {width n : Nat} : ∀ c ∈ padded width n, c.isDigit = true := by
  intro c hc
  rcases List.mem_append.mp hc with hzero | hdigit
  · rw [(List.mem_replicate.mp hzero).2]
    decide
  · exact Nat.isDigit_of_mem_toDigits (by decide) (by decide) hdigit

theorem ofDigitChars_padded (width n : Nat) : Nat.ofDigitChars 10 (padded width n) 0 = n := by
  rw [padded, Nat.ofDigitChars_append, Nat.ofDigitChars_replicate_zero, Nat.mul_zero,
    Nat.ofDigitChars_ten_toDigits]

end FileTime

theorem digit_lt_ten {c : Char} (h : c.isDigit = true) : 48 ≤ c.toNat ∧ c.toNat - 48 < 10 := by
  simp only [Char.isDigit, Bool.and_eq_true, decide_eq_true_eq, ge_iff_le, UInt32.le_iff_toNat_le]
    at h
  have hlo : 48 ≤ c.toNat := h.1
  have hhi : c.toNat ≤ 57 := h.2
  omega

theorem ofDigitChars_lt {digits : List Char} (h : ∀ c ∈ digits, c.isDigit = true) :
    Nat.ofDigitChars 10 digits 0 < 10 ^ digits.length := by
  induction digits with
  | nil => simp
  | cons c cs ih =>
    obtain ⟨hc, hcs⟩ := List.forall_mem_cons.mp h
    have hrest := ih hcs
    have hdigit : c.toNat - 48 ≤ 9 := by have := (digit_lt_ten hc).2; omega
    have hfront := Nat.mul_le_mul_left (10 ^ cs.length) hdigit
    rw [Nat.ofDigitChars_cons, Nat.ofDigitChars_eq_ofDigitChars_zero, List.length_cons,
      Nat.pow_succ, Nat.mul_zero, Nat.zero_add]
    change 10 ^ cs.length * (c.toNat - 48) + _ < _
    omega

/-- Numbers of the same width compare as their digits do. -/
theorem lt_of_ofDigitChars_lt {a b : List Char} (hlen : a.length = b.length)
    (ha : ∀ c ∈ a, c.isDigit = true) (hb : ∀ c ∈ b, c.isDigit = true)
    (h : Nat.ofDigitChars 10 a 0 < Nat.ofDigitChars 10 b 0) : a < b := by
  induction a generalizing b with
  | nil =>
    rw [List.length_eq_zero_iff.mp hlen.symm] at h
    exact absurd h (Nat.lt_irrefl _)
  | cons c cs ih =>
    cases b with
    | nil => simp at hlen
    | cons d ds =>
      obtain ⟨hc, hcs⟩ := List.forall_mem_cons.mp ha
      obtain ⟨hd, hds⟩ := List.forall_mem_cons.mp hb
      have hlen' : cs.length = ds.length := by simpa using hlen
      have hcbound := ofDigitChars_lt hcs
      have hdbound := ofDigitChars_lt hds
      rw [Nat.ofDigitChars_cons, Nat.ofDigitChars_cons, Nat.ofDigitChars_eq_ofDigitChars_zero,
        Nat.ofDigitChars_eq_ofDigitChars_zero (l := ds), Nat.mul_zero, Nat.zero_add, Nat.zero_add,
        ← hlen'] at h
      rw [← hlen'] at hdbound
      change 10 ^ cs.length * (c.toNat - 48) + _ < 10 ^ cs.length * (d.toNat - 48) + _ at h
      have hclo := (digit_lt_ten hc).1
      have hdlo := (digit_lt_ten hd).1
      rw [List.cons_lt_cons_iff]
      rcases Nat.lt_trichotomy c.toNat d.toNat with hlt | heq | hgt
      · exact .inl hlt
      · have hsame : c = d := Char.toNat_inj.mp heq
        subst hsame
        exact .inr ⟨rfl, ih hlen' hcs hds (by omega)⟩
      · -- a bigger digit in front outweighs all digits behind it
        have hmore := Nat.mul_le_mul_left (10 ^ cs.length)
          (show d.toNat - 48 + 1 ≤ c.toNat - 48 by omega)
        rw [Nat.mul_add, Nat.mul_one] at hmore
        omega

theorem append_lt_append {a b : List Char} (hlen : a.length = b.length) (h : a < b)
    (x y : List Char) : a ++ x < b ++ y := by
  induction a generalizing b with
  | nil =>
    rw [List.length_eq_zero_iff.mp hlen.symm] at h
    exact absurd h (List.lt_irrefl _)
  | cons c cs ih =>
    cases b with
    | nil => simp at hlen
    | cons d ds =>
      rw [List.cons_append, List.cons_append, List.cons_lt_cons_iff]
      rcases List.cons_lt_cons_iff.mp h with hlt | ⟨rfl, hlt⟩
      · exact .inl hlt
      · exact .inr ⟨rfl, ih (by simpa using hlen) hlt⟩

/-- A field decides unless it is the same. -/
theorem FileTime.padded_append_lt {width n m : Nat} {x y : List Char} (hw : 0 < width)
    (hn : n < 10 ^ width) (hm : m < 10 ^ width) (h : n < m ∨ n = m ∧ x < y) :
    padded width n ++ x < padded width m ++ y := by
  rcases h with hlt | ⟨rfl, hlt⟩
  · have hlen : (padded width n).length = (padded width m).length := by
      rw [length_padded hw hn, length_padded hw hm]
    refine append_lt_append hlen (lt_of_ofDigitChars_lt hlen isDigit_padded isDigit_padded ?_) x y
    rwa [ofDigitChars_padded, ofDigitChars_padded]
  · exact List.append_left_lt hlt

/-! ## Moments -/

namespace Time

/-- A second of a day of the calendar. -/
structure Moment where
  date : Date
  hour : Nat
  minute : Nat
  second : Nat
  deriving DecidableEq, Repr

namespace Moment

/-- A date of the calendar, and a time of day without leap seconds. -/
def Valid (m : Moment) : Prop :=
  m.date.Valid ∧ m.hour < 24 ∧ m.minute < 60 ∧ m.second < 60

/-- Seconds from the start of 1970 to a moment of Universal Time. -/
def unixSeconds (m : Moment) : Int :=
  86400 * ((m.date.dayNumber : Int) - (Date.mk 1970 1 1).dayNumber) +
    3600 * m.hour + 60 * m.minute + m.second

/-- The moment that lies `n` seconds behind the start of year 1. -/
def ofSecond (n : Nat) : Moment :=
  ⟨Date.ofDayNumber (n / 86400), n % 86400 / 3600, n % 86400 / 60 % 60, n % 86400 % 60⟩

theorem valid_ofSecond {n : Nat} (h : n < 315537897600) : (ofSecond n).Valid := by
  refine ⟨Date.valid_ofDayNumber (by omega), ?_, ?_, ?_⟩ <;> simp only [ofSecond] <;> omega

theorem unixSeconds_ofSecond (n : Nat) : (ofSecond n).unixSeconds = FileTime.firstSecond + n := by
  have hepoch : (Date.mk 1970 1 1).dayNumber = 719162 := by decide
  simp only [unixSeconds, ofSecond, Date.dayNumber_ofDayNumber, hepoch, FileTime.firstSecond]
  omega

/-- The lexicographic order of date and time of day. -/
def Earlier (a b : Moment) : Prop :=
  a.date.Earlier b.date ∨ a.date = b.date ∧
    (a.hour < b.hour ∨ a.hour = b.hour ∧
      (a.minute < b.minute ∨ a.minute = b.minute ∧ a.second < b.second))

/-- Later seconds have later moments. -/
theorem earlier_ofSecond {n m : Nat} (h : n < m) (hm : m < 315537897600) :
    (ofSecond n).Earlier (ofSecond m) := by
  rcases Nat.lt_or_eq_of_le (Nat.div_le_div_right (c := 86400) (Nat.le_of_lt h)) with hday | hday
  · exact .inl (Date.earlier_ofDayNumber hday (by omega))
  · refine .inr ⟨congrArg Date.ofDayNumber hday, ?_⟩
    simp only [ofSecond]
    omega

/-! ## Written and read -/

/-- A moment in the form `YYYY-MM-DDTHH:MM:SSZ`. -/
def written (m : Moment) : List Char :=
  FileTime.padded 4 m.date.year ++ '-' :: FileTime.padded 2 m.date.month ++
    '-' :: FileTime.padded 2 m.date.day ++ 'T' :: FileTime.padded 2 m.hour ++
      ':' :: FileTime.padded 2 m.minute ++ ':' :: FileTime.padded 2 m.second ++ ['Z']

theorem render_eq (n : Nat) : FileTime.render n = (ofSecond n).written :=
  rfl

/-- Reads a number of exactly `width` digits. -/
def number? (width : Nat) (text : List Char) : Option (Nat × List Char) :=
  let digits := text.take width
  if digits.length = width ∧ digits.all Char.isDigit = true then
    some (Nat.ofDigitChars 10 digits 0, text.drop width)
  else none

/-- Reads one character. -/
def mark? (mark : Char) : List Char → Option (List Char)
  | [] => none
  | c :: rest => if c = mark then some rest else none

/-- Reads the form `YYYY-MM-DDTHH:MM:SSZ`, with nothing in front of it or behind. -/
def read? (text : String) : Option Moment := do
  let (year, text) ← number? 4 text.toList
  let text ← mark? '-' text
  let (month, text) ← number? 2 text
  let text ← mark? '-' text
  let (day, text) ← number? 2 text
  let text ← mark? 'T' text
  let (hour, text) ← number? 2 text
  let text ← mark? ':' text
  let (minute, text) ← number? 2 text
  let text ← mark? ':' text
  let (second, text) ← number? 2 text
  let text ← mark? 'Z' text
  if text = [] then some ⟨⟨year, month, day⟩, hour, minute, second⟩ else none

theorem number?_padded {width n : Nat} (hw : 0 < width) (h : n < 10 ^ width) (rest : List Char) :
    number? width (FileTime.padded width n ++ rest) = some (n, rest) := by
  have hlen := FileTime.length_padded hw h
  have hdigits : (FileTime.padded width n).all Char.isDigit = true :=
    List.all_eq_true.mpr FileTime.isDigit_padded
  simp only [number?, List.take_left' hlen, List.drop_left' hlen, hlen, hdigits, and_self,
    if_true, FileTime.ofDigitChars_padded]

theorem mark?_cons (mark : Char) (rest : List Char) : mark? mark (mark :: rest) = some rest :=
  if_pos rfl

/-- The fields of a moment fit into the widths of its form. -/
theorem Valid.widths {m : Moment} (h : m.Valid) :
    m.date.year < 10 ^ 4 ∧ m.date.month < 10 ^ 2 ∧ m.date.day < 10 ^ 2 ∧ m.hour < 10 ^ 2 ∧
      m.minute < 10 ^ 2 ∧ m.second < 10 ^ 2 := by
  obtain ⟨hdate, hhour, hminute, hsecond⟩ := h
  have hday : m.date.day - 1 < yearLength m.date.year :=
    Nat.lt_of_le_of_lt (Nat.le_add_left _ _) hdate.dayOfYear_lt
  obtain ⟨-, hyear, -, hmonth, -, hlast⟩ := hdate
  have hlong : ∀ leap, ∀ i < 12, (monthLengths leap).getD i 0 ≤ 31 := by decide
  have := hlong (isLeap m.date.year) (m.date.month - 1) (by omega)
  omega

theorem length_written {m : Moment} (h : m.Valid) : m.written.length = 20 := by
  obtain ⟨hyear, hmonth, hday, hhour, hminute, hsecond⟩ := h.widths
  have four : 0 < 4 := by decide
  have two : 0 < 2 := by decide
  simp only [written, List.length_append, List.length_cons, List.length_nil,
    FileTime.length_padded four hyear, FileTime.length_padded two hmonth,
    FileTime.length_padded two hday, FileTime.length_padded two hhour,
    FileTime.length_padded two hminute, FileTime.length_padded two hsecond]

/-- What is written is read. -/
theorem read?_written {m : Moment} (h : m.Valid) : read? (String.ofList m.written) = some m := by
  obtain ⟨hyear, hmonth, hday, hhour, hminute, hsecond⟩ := h.widths
  have four : 0 < 4 := by decide
  have two : 0 < 2 := by decide
  simp only [read?, written, String.toList_ofList, List.append_assoc, List.cons_append,
    number?_padded four hyear, number?_padded two hmonth, number?_padded two hday,
    number?_padded two hhour, number?_padded two hminute, number?_padded two hsecond, mark?_cons,
    Option.bind_eq_bind, Option.bind_some, if_true]

/-- The order of moments, a field at a time. -/
theorem Earlier.fields {a b : Moment} (h : a.Earlier b) :
    a.date.year < b.date.year ∨ a.date.year = b.date.year ∧
      (a.date.month < b.date.month ∨ a.date.month = b.date.month ∧
        (a.date.day < b.date.day ∨ a.date.day = b.date.day ∧
          (a.hour < b.hour ∨ a.hour = b.hour ∧
            (a.minute < b.minute ∨ a.minute = b.minute ∧ a.second < b.second)))) := by
  rcases h with hdate | ⟨hsame, htime⟩
  · unfold Date.Earlier at hdate
    omega
  · rw [hsame]
    omega

/-- Moments compare as their texts do. -/
theorem written_lt_of_earlier {a b : Moment} (ha : a.Valid) (hb : b.Valid) (h : a.Earlier b) :
    a.written < b.written := by
  obtain ⟨hyear, hmonth, hday, hhour, hminute, hsecond⟩ := ha.widths
  obtain ⟨hyear', hmonth', hday', hhour', hminute', hsecond'⟩ := hb.widths
  have four : 0 < 4 := by decide
  have two : 0 < 2 := by decide
  have behind : ∀ {mark : Char} {x y : List Char}, x < y → mark :: x < mark :: y :=
    fun h => List.cons_lt_cons_iff.mpr (.inr ⟨rfl, h⟩)
  simp only [written, List.append_assoc, List.cons_append]
  refine FileTime.padded_append_lt four hyear hyear' (h.fields.imp_right (.imp_right fun h => ?_))
  refine behind (FileTime.padded_append_lt two hmonth hmonth'
    (h.imp_right (.imp_right fun h => ?_)))
  refine behind (FileTime.padded_append_lt two hday hday' (h.imp_right (.imp_right fun h => ?_)))
  refine behind (FileTime.padded_append_lt two hhour hhour' (h.imp_right (.imp_right fun h => ?_)))
  refine behind (FileTime.padded_append_lt two hminute hminute'
    (h.imp_right (.imp_right fun h => ?_)))
  exact behind (FileTime.padded_append_lt two hsecond hsecond' (.inl h))

end Moment

end Time

/-! ## Time stamps -/

namespace FileTime

open Time

/-- Parts of a second are dropped towards the start of 1601, from both sides of it. -/
theorem unixSeconds_eq (ticks : Int) :
    unixSeconds ticks = ticks.sign * (ticks.natAbs / 10000000 : Nat) - 11644473600 := by
  unfold unixSeconds ticksPerSecond secondsTo1970
  congr 1
  obtain ⟨n, rfl | rfl⟩ := ticks.eq_nat_or_neg
  case inl =>
    rcases Nat.eq_zero_or_pos n with rfl | hpos
    · rfl
    · rw [Int.sign_eq_one_of_pos (by omega), Int.one_mul, Int.natAbs_natCast]
      rfl
  case inr =>
    rcases Nat.eq_zero_or_pos n with rfl | hpos
    · rfl
    · rw [Int.sign_eq_neg_one_of_neg (by omega), Int.neg_one_mul, Int.natAbs_neg,
        Int.natAbs_natCast, Int.neg_tdiv]
      rfl

theorem unixSeconds_mono {t u : Int} (h : t ≤ u) : unixSeconds t ≤ unixSeconds u :=
  Int.sub_le_sub_right (Int.tdiv_le_tdiv (by decide) h) _

theorem text?_eq_none_iff (ticks : Int) :
    text? ticks = none ↔
      ticks = 0 ∨ unixSeconds ticks < -62135596800 ∨ 253402300799 < unixSeconds ticks := by
  simp only [text?, ite_eq_left_iff, reduceCtorEq, imp_false, not_not]
  rfl

/-- Seconds from the start of year 1 to a time stamp. -/
def secondOf (ticks : Int) : Nat :=
  (unixSeconds ticks - firstSecond).toNat

/-- A time stamp that has a text lies in one of the years 1 to 9999, and its text is that of the
moment it stands for. -/
theorem secondOf_of_text? {ticks : Int} {text : String} (h : text? ticks = some text) :
    secondOf ticks < 315537897600 ∧ firstSecond + secondOf ticks = unixSeconds ticks ∧
      text = String.ofList (Moment.ofSecond (secondOf ticks)).written := by
  unfold text? at h
  simp only at h
  split at h
  case isTrue => cases h
  case isFalse hin =>
    simp only [not_or, Int.not_lt] at hin
    obtain ⟨-, hfirst, hlast⟩ := hin
    refine ⟨?_, ?_, ?_⟩
    · unfold secondOf firstSecond
      unfold lastSecond at hlast
      omega
    · unfold secondOf
      omega
    · rw [← Moment.render_eq]
      exact (Option.some.inj h).symm

/-- Later time stamps have later texts. -/
theorem text_le_text {t u : Int} {text text' : String} (h : t ≤ u) (ht : text? t = some text)
    (hu : text? u = some text') : text ≤ text' := by
  obtain ⟨hlt, -, rfl⟩ := secondOf_of_text? ht
  obtain ⟨hlt', -, rfl⟩ := secondOf_of_text? hu
  have hle : secondOf t ≤ secondOf u :=
    Int.toNat_le_toNat (Int.sub_le_sub_right (unixSeconds_mono h) firstSecond)
  rw [String.le_iff_toList_le, String.toList_ofList, String.toList_ofList]
  -- two time stamps in one second have the same text
  rcases Nat.lt_or_eq_of_le hle with hmore | hsame
  · exact le_of_lt (Moment.written_lt_of_earlier (Moment.valid_ofSecond hlt)
      (Moment.valid_ofSecond hlt') (Moment.earlier_ofSecond hmore hlt'))
  · rw [hsame]

/-- **A time stamp has a text exactly if it is not zero and falls into the years 1 to 9999. The text
is 20 characters long and names a moment of the calendar that lies as many seconds behind the start
of 1970 as the time stamp. Later time stamps have later texts.** -/
theorem text?_spec (ticks : Int) :
    (text? ticks = none ↔
      ticks = 0 ∨ ¬(-62135596800 ≤ unixSeconds ticks ∧ unixSeconds ticks ≤ 253402300799)) ∧
    unixSeconds ticks = ticks.sign * (ticks.natAbs / 10000000 : Nat) - 11644473600 ∧
    (∀ text, text? ticks = some text → text.length = 20 ∧
      ∃ m, Moment.read? text = some m ∧ m.Valid ∧ m.unixSeconds = unixSeconds ticks) ∧
    ∀ later text text', ticks ≤ later → text? ticks = some text → text? later = some text' →
      text ≤ text' := by
  refine ⟨?_, unixSeconds_eq ticks, ?_, fun _ _ _ => text_le_text⟩
  · rw [text?_eq_none_iff]
    omega
  · intro text htext
    obtain ⟨hlt, hcount, rfl⟩ := secondOf_of_text? htext
    have hvalid := Moment.valid_ofSecond hlt
    refine ⟨?_, _, Moment.read?_written hvalid, hvalid, ?_⟩
    · rw [String.length_ofList, Moment.length_written hvalid]
    · rw [Moment.unixSeconds_ofSecond, hcount]

theorem text?_spec_first_seconds_of_1970 :
    "1970-01-01T00:00:00Z" ≤ "1970-01-01T00:00:01Z" ∧
      ∃ m, Moment.read? "1970-01-01T00:00:00Z" = some m ∧ m.Valid ∧
        m.unixSeconds = unixSeconds 116444736000000000 := by
  have hfirst : text? 116444736000000000 = some "1970-01-01T00:00:00Z" := by rfl
  have hnext : text? 116444736010000000 = some "1970-01-01T00:00:01Z" := by rfl
  obtain ⟨-, -, hread, hle⟩ := text?_spec 116444736000000000
  exact ⟨hle _ _ _ (by decide) hfirst hnext, (hread _ hfirst).2⟩

end FileTime

end HiveDump
