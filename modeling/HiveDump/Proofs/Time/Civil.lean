import HiveDump.Time.Civil
import Mathlib.Algebra.GroupWithZero.Nat
import Mathlib.Tactic.ByContra

/-!
# The calendar counts days there and back

A year begins where the year in front of it ends, and within a year a month where the month in front
of it ends. So a day lies in one year and in one month of it, its date counts exactly the days in
front of it, and later days have later dates.

Results:
* **`dayNumber_ofDayNumber`**: a date found for a day counts that day;
* **`valid_ofDayNumber`**: it is a date of the calendar as long as the day lies in front of year
  10000;
* **`dayNumber_lt_of_earlier`**: an earlier date of the calendar counts fewer days;
* `earlier_ofDayNumber`: later days have later dates.
-/

namespace HiveDump.Time

/-! ## Years -/

/-- The days of a year. -/
def yearLength (year : Nat) : Nat :=
  if isLeap year then 366 else 365

theorem isLeap_iff (year : Nat) :
    isLeap year = true ↔ year % 4 = 0 ∧ (year % 100 ≠ 0 ∨ year % 400 = 0) := by
  simp [isLeap]

theorem sum_monthLengths (year : Nat) : (monthLengths (isLeap year)).sum = yearLength year := by
  unfold yearLength
  cases isLeap year <;> rfl

theorem succ_div_cases (n k : Nat) :
    (n + 1) / k = n / k + 1 ∧ (n + 1) % k = 0 ∨ (n + 1) / k = n / k ∧ (n + 1) % k ≠ 0 := by
  rw [Nat.succ_div, Ne, ← Nat.dvd_iff_mod_eq_zero]
  by_cases h : k ∣ n + 1 <;> simp [h]

/-- A year begins where the year in front of it ends. -/
theorem daysBeforeYear_succ {year : Nat} (h : 1 ≤ year) :
    daysBeforeYear (year + 1) = daysBeforeYear year + yearLength year := by
  obtain ⟨n, rfl⟩ : ∃ n, year = n + 1 := ⟨year - 1, by omega⟩
  have four := succ_div_cases n 4
  have century := succ_div_cases n 100
  have cycle := succ_div_cases n 400
  have inFour : (n + 1) % 100 = 0 → (n + 1) % 4 = 0 := by omega
  have inCentury : (n + 1) % 400 = 0 → (n + 1) % 100 = 0 := by omega
  have less : n / 100 ≤ n / 4 := Nat.div_le_div_left (by decide) (by decide)
  -- each quotient grows by one exactly where its remainder is zero, and this is what a leap year is
  simp only [daysBeforeYear, yearLength, Nat.add_sub_cancel, isLeap_iff]
  generalize n / 4 = a, (n + 1) / 4 = a', n / 100 = b, (n + 1) / 100 = b', n / 400 = c,
    (n + 1) / 400 = c', (n + 1) % 4 = r, (n + 1) % 100 = r', (n + 1) % 400 = r'' at *
  split <;> omega

theorem daysBeforeYear_mono {y z : Nat} (hy : 1 ≤ y) (h : y ≤ z) :
    daysBeforeYear y ≤ daysBeforeYear z := by
  induction h with
  | refl => exact Nat.le_refl _
  | step hz ih =>
    rw [daysBeforeYear_succ (Nat.le_trans hy hz)]
    exact Nat.le_add_right_of_le ih

theorem daysBeforeYear_add_yearLength_le {y z : Nat} (hy : 1 ≤ y) (h : y < z) :
    daysBeforeYear y + yearLength y ≤ daysBeforeYear z := by
  rw [← daysBeforeYear_succ hy]
  exact daysBeforeYear_mono (Nat.le_add_left 1 y) h

/-- The days in front of a year that is given by its cycle, its century in the cycle, its four
years in the century and its place in the four. -/
theorem daysBeforeYear_of_cycle (cycle : Nat) {century four single : Nat} (hc : century ≤ 3)
    (hf : four ≤ 24) (hs : single ≤ 3) :
    daysBeforeYear (400 * cycle + 100 * century + 4 * four + single + 1) =
      146097 * cycle + 36524 * century + 1461 * four + 365 * single := by
  have fours : (400 * cycle + 100 * century + 4 * four + single) / 4 =
    100 * cycle + 25 * century + four := by omega
  have centuries : (400 * cycle + 100 * century + 4 * four + single) / 100 =
    4 * cycle + century := by omega
  have cycles : (400 * cycle + 100 * century + 4 * four + single) / 400 = cycle := by omega
  simp only [daysBeforeYear, Nat.add_sub_cancel, fours, centuries, cycles]
  omega

/-- The last of four years has a day more, except at the end of the first three centuries. -/
theorem yearLength_of_cycle (cycle : Nat) {century four single : Nat} (hc : century ≤ 3)
    (hf : four ≤ 24) (hs : single ≤ 3) :
    yearLength (400 * cycle + 100 * century + 4 * four + single + 1) =
      if single = 3 ∧ (four ≠ 24 ∨ century = 3) then 366 else 365 := by
  simp only [yearLength, isLeap_iff]
  congr 1
  apply propext
  omega

namespace Date

/-- A day lies in the year that `yearOfDay` finds, behind as many days of it as it says. -/
theorem yearOfDay_spec (n : Nat) :
    1 ≤ (yearOfDay n).1 ∧ daysBeforeYear (yearOfDay n).1 + (yearOfDay n).2 = n ∧
      (yearOfDay n).2 < yearLength (yearOfDay n).1 := by
  simp only [yearOfDay]
  generalize hcentury : min 3 (n % 146097 / 36524) = century
  generalize hin : n % 146097 - 36524 * century = inCentury
  generalize hsingle : min 3 (inCentury % 1461 / 365) = single
  have hc : century ≤ 3 := hcentury ▸ Nat.min_le_left _ _
  have hs : single ≤ 3 := hsingle ▸ Nat.min_le_left _ _
  have hf : inCentury / 1461 ≤ 24 := by omega
  rw [daysBeforeYear_of_cycle _ hc hf hs, yearLength_of_cycle _ hc hf hs]
  refine ⟨by omega, by omega, ?_⟩
  split <;> omega

/-! ## Months -/

/-- A month begins where the month in front of it ends. -/
theorem sum_take_add_getD_le (lengths : List Nat) {i j : Nat} (h : i < j) :
    (lengths.take i).sum + lengths.getD i 0 ≤ (lengths.take j).sum := by
  induction lengths generalizing i j with
  | nil => simp
  | cons length rest ih =>
    obtain ⟨j, rfl⟩ : ∃ k, j = k + 1 := ⟨j - 1, by omega⟩
    cases i with
    | zero => simp
    | succ i =>
      have hi := ih (Nat.lt_of_succ_lt_succ h)
      simp only [List.take_succ_cons, List.sum_cons, List.getD_cons_succ]
      omega

theorem sum_take_le_sum (lengths : List Nat) (i : Nat) : (lengths.take i).sum ≤ lengths.sum := by
  induction lengths generalizing i with
  | nil => simp
  | cons length rest ih =>
    cases i with
    | zero => simp
    | succ i => simpa using ih i

/-- A day of a year lies in the month that `ofDayOfYear` finds. -/
theorem ofDayOfYear_spec {lengths : List Nat} {n : Nat} (first : Nat) (h : n < lengths.sum) :
    ∃ i < lengths.length,
      ofDayOfYear first lengths n = (first + i, n - (lengths.take i).sum + 1) ∧
        (lengths.take i).sum ≤ n ∧ n < (lengths.take i).sum + lengths.getD i 0 := by
  induction lengths generalizing first n with
  | nil => simp at h
  | cons length rest ih =>
    unfold ofDayOfYear
    split
    case isTrue hn => exact ⟨0, by simp, by simp, by simp, by simpa using hn⟩
    case isFalse hn =>
      obtain ⟨i, hi, hfound, hle, hlt⟩ := ih (n := n - length) (first + 1)
        (by simp only [List.sum_cons] at h; omega)
      refine ⟨i + 1, by simpa using hi, ?_, ?_, ?_⟩ <;>
        simp only [List.take_succ_cons, List.sum_cons, List.getD_cons_succ]
      · rw [hfound, Nat.sub_sub, Nat.add_assoc first, Nat.add_comm 1]
      · omega
      · omega

/-! ## Dates -/

/-- The days between 1 January and a date of the same year. -/
def dayOfYear (d : Date) : Nat :=
  ((monthLengths (isLeap d.year)).take (d.month - 1)).sum + (d.day - 1)

theorem dayNumber_eq (d : Date) : d.dayNumber = daysBeforeYear d.year + d.dayOfYear := by
  rw [dayNumber, dayOfYear, List.sum_eq_foldl_nat, Nat.add_assoc]

theorem Valid.dayOfYear_lt {d : Date} (h : d.Valid) : d.dayOfYear < yearLength d.year := by
  obtain ⟨-, -, -, -, hday, hlast⟩ := h
  have hmonth := Nat.le_trans
    (sum_take_add_getD_le (monthLengths (isLeap d.year)) (Nat.lt_succ_self (d.month - 1)))
    (sum_take_le_sum _ _)
  rw [sum_monthLengths] at hmonth
  unfold dayOfYear
  omega

/-- Year, day of the year, month and day of month fit together. -/
theorem ofDayNumber_spec (n : Nat) :
    (ofDayNumber n).year = (yearOfDay n).1 ∧ (ofDayNumber n).dayOfYear = (yearOfDay n).2 ∧
      1 ≤ (ofDayNumber n).month ∧ (ofDayNumber n).month ≤ 12 ∧ 1 ≤ (ofDayNumber n).day ∧
        (ofDayNumber n).day ≤
          (monthLengths (isLeap (ofDayNumber n).year)).getD ((ofDayNumber n).month - 1) 0 := by
  obtain ⟨-, -, hlt⟩ := yearOfDay_spec n
  rw [← sum_monthLengths] at hlt
  obtain ⟨i, hi, hfound, hle, hend⟩ := ofDayOfYear_spec 1 hlt
  have hdate : ofDayNumber n = ⟨(yearOfDay n).1, 1 + i,
      (yearOfDay n).2 - ((monthLengths (isLeap (yearOfDay n).1)).take i).sum + 1⟩ := by
    unfold ofDayNumber
    simp only [hfound]
  have hmonths : (monthLengths (isLeap (yearOfDay n).1)).length = 12 := rfl
  rw [hdate]
  refine ⟨rfl, ?_, ?_⟩
  · simp only [dayOfYear, Nat.add_sub_cancel_left, Nat.add_sub_cancel]
    omega
  · simp only [Nat.add_sub_cancel_left]
    omega

/-- **The date of a day counts that day.** -/
theorem dayNumber_ofDayNumber (n : Nat) : (ofDayNumber n).dayNumber = n := by
  obtain ⟨hyear, hday, -⟩ := ofDayNumber_spec n
  obtain ⟨-, hsum, -⟩ := yearOfDay_spec n
  rw [dayNumber_eq, hyear, hday, hsum]

/-- **A day in front of year 10000 has a date of the calendar.** -/
theorem valid_ofDayNumber {n : Nat} (h : n < 3652059) : (ofDayNumber n).Valid := by
  obtain ⟨hyear, -, hmonth, htwelve, hday, hlast⟩ := ofDayNumber_spec n
  obtain ⟨hone, hsum, -⟩ := yearOfDay_spec n
  refine ⟨hyear ▸ hone, ?_, hmonth, htwelve, hday, hlast⟩
  by_contra hlate
  have hfront : daysBeforeYear 10000 ≤ daysBeforeYear (yearOfDay n).1 :=
    daysBeforeYear_mono (by decide) (by omega)
  have hcount : daysBeforeYear 10000 = 3652059 := rfl
  omega

/-! ## Dates in their order -/

/-- The lexicographic order of year, month and day. -/
def Earlier (a b : Date) : Prop :=
  a.year < b.year ∨ a.year = b.year ∧ (a.month < b.month ∨ a.month = b.month ∧ a.day < b.day)

theorem earlier_or_eq_or_earlier (a b : Date) : a.Earlier b ∨ a = b ∨ b.Earlier a := by
  obtain ⟨y, m, d⟩ := a
  obtain ⟨y', m', d'⟩ := b
  simp only [Earlier, Date.mk.injEq]
  omega

/-- **An earlier date of the calendar counts fewer days.** -/
theorem dayNumber_lt_of_earlier {a b : Date} (ha : a.Valid) (hb : b.Valid) (h : a.Earlier b) :
    a.dayNumber < b.dayNumber := by
  rw [dayNumber_eq, dayNumber_eq]
  rcases h with hyear | ⟨hyear, hrest⟩
  case inl =>
    have hcount := daysBeforeYear_add_yearLength_le ha.1 hyear
    have hlt := ha.dayOfYear_lt
    omega
  case inr =>
    rw [hyear]
    apply Nat.add_lt_add_left
    obtain ⟨-, -, hmonth, -, hday, hlast⟩ := ha
    obtain ⟨-, -, hmonth', -, hday', -⟩ := hb
    unfold dayOfYear
    rw [hyear] at hlast ⊢
    rcases hrest with hlt | ⟨heq, hlt⟩
    · have hcount := sum_take_add_getD_le (monthLengths (isLeap b.year))
        (show a.month - 1 < b.month - 1 by omega)
      omega
    · rw [heq]
      omega

/-- Later days have later dates. -/
theorem earlier_ofDayNumber {n m : Nat} (h : n < m) (hm : m < 3652059) :
    (ofDayNumber n).Earlier (ofDayNumber m) := by
  have hn := valid_ofDayNumber (Nat.lt_trans h hm)
  rcases earlier_or_eq_or_earlier (ofDayNumber n) (ofDayNumber m) with hlt | heq | hlt
  · exact hlt
  · have hsame := congrArg dayNumber heq
    rw [dayNumber_ofDayNumber, dayNumber_ofDayNumber] at hsame
    exact absurd hsame (Nat.ne_of_lt h)
  · have hcount := dayNumber_lt_of_earlier (valid_ofDayNumber hm) hn hlt
    rw [dayNumber_ofDayNumber, dayNumber_ofDayNumber] at hcount
    exact absurd hcount (Nat.lt_asymm h)

end Date

end HiveDump.Time
