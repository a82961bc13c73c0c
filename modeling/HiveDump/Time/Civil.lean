/-!
# Dates of the proleptic Gregorian calendar

`Date.ofDayNumber` turns a count of days since 1 January of year 1 into a date, and
`Date.dayNumber` counts the days in front of a date. Years run from 1 to 9999.

A day is found from the outside in: a cycle of 400 years has 146097 days, a century in it 36524
(the last one a day more), four years 1461, a year 365 (the last of four a day more).
-/

namespace HiveDump.Time

/-- Every fourth year is a leap year, of the full centuries only every fourth. -/
def isLeap (year : Nat) : Bool :=
  year % 4 == 0 && (year % 100 != 0 || year % 400 == 0)

/-- The lengths of the months of a year. -/
def monthLengths (leap : Bool) : List Nat :=
  [31, if leap then 29 else 28, 31, 30, 31, 30, 31, 31, 30, 31, 30, 31]

/-- The days in front of a year. -/
def daysBeforeYear (year : Nat) : Nat :=
  let y := year - 1
  365 * y + y / 4 - y / 100 + y / 400

/-- A day of the calendar; months and days count from one. -/
structure Date where
  year : Nat
  month : Nat
  day : Nat
  deriving DecidableEq, Repr

namespace Date

/-- A month that the year has, and a day that the month has. -/
def Valid (d : Date) : Prop :=
  1 ≤ d.year ∧ d.year ≤ 9999 ∧ 1 ≤ d.month ∧ d.month ≤ 12 ∧ 1 ≤ d.day ∧
    d.day ≤ (monthLengths (isLeap d.year)).getD (d.month - 1) 0

instance (d : Date) : Decidable d.Valid := by
  unfold Valid; infer_instance

/-- The days between 1 January of year 1 and a date. -/
def dayNumber (d : Date) : Nat :=
  daysBeforeYear d.year + ((monthLengths (isLeap d.year)).take (d.month - 1)).foldl (· + ·) 0 +
    (d.day - 1)

/-- Month and day of month on day `n` of a year whose months have these lengths. -/
def ofDayOfYear : (month : Nat) → (lengths : List Nat) → (n : Nat) → Nat × Nat
  | month, [], n => (month, n + 1)
  | month, length :: rest, n =>
    if n < length then (month, n + 1) else ofDayOfYear (month + 1) rest (n - length)

/-- The year that holds a day, and the number of the day in it. -/
def yearOfDay (n : Nat) : Nat × Nat :=
  let cycle := n / 146097
  let inCycle := n % 146097
  let century := min 3 (inCycle / 36524)
  let inCentury := inCycle - 36524 * century
  let four := inCentury / 1461
  let inFour := inCentury % 1461
  let single := min 3 (inFour / 365)
  (400 * cycle + 100 * century + 4 * four + single + 1, inFour - 365 * single)

/-- The date that lies `n` days behind 1 January of year 1. -/
def ofDayNumber (n : Nat) : Date :=
  let (year, inYear) := yearOfDay n
  let (month, day) := ofDayOfYear 1 (monthLengths (isLeap year)) inYear
  ⟨year, month, day⟩

example : ofDayNumber 0 = ⟨1, 1, 1⟩ := by decide
example : ofDayNumber 719162 = ⟨1970, 1, 1⟩ := by decide
example : ofDayNumber 3652058 = ⟨9999, 12, 31⟩ := by decide
example : (Date.mk 2000 2 29).dayNumber = 730178 ∧ ofDayNumber 730178 = ⟨2000, 2, 29⟩ := by decide

end Date

end HiveDump.Time
