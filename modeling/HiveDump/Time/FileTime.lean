import HiveDump.Time.Civil

/-!
# Time stamps of a hive

A time stamp counts steps of 100 nanoseconds since 1601 in Universal Time; zero says that there is
none. `FileTime.text?` writes it as `YYYY-MM-DDTHH:MM:SSZ` if it falls into the years 1 to 9999;
parts of a second are dropped towards 1601.
-/

namespace HiveDump.FileTime

open HiveDump.Time

/-- Steps in a second. -/
def ticksPerSecond : Int := 10000000

/-- Seconds from the start of 1601 to the start of 1970. -/
def secondsTo1970 : Int := 11644473600

/-- Whole seconds since the start of 1970. -/
def unixSeconds (ticks : Int) : Int :=
  ticks.tdiv ticksPerSecond - secondsTo1970

/-- The start of year 1, in seconds since the start of 1970. -/
def firstSecond : Int := -62135596800

/-- The last second of year 9999, in seconds since the start of 1970. -/
def lastSecond : Int := 253402300799

/-- `n` with zeros in front up to `width` digits. -/
def padded (width n : Nat) : List Char :=
  let digits := Nat.toDigits 10 n
  List.replicate (width - digits.length) '0' ++ digits

/-- The text of a second that is counted from the start of year 1. -/
def render (second : Nat) : List Char :=
  let date := Date.ofDayNumber (second / 86400)
  let rest := second % 86400
  padded 4 date.year ++ '-' :: padded 2 date.month ++ '-' :: padded 2 date.day ++
    'T' :: padded 2 (rest / 3600) ++ ':' :: padded 2 (rest / 60 % 60) ++
    ':' :: padded 2 (rest % 60) ++ ['Z']

/-- The text of a time stamp; a zero one, or one outside the calendar, has none. -/
def text? (ticks : Int) : Option String :=
  let seconds := unixSeconds ticks
  if ticks = 0 ∨ seconds < firstSecond ∨ lastSecond < seconds then none
  else some (String.ofList (render (seconds - firstSecond).toNat))

/-- The text of a time stamp that may be missing. -/
def optionalText? (ticks : Option Int) : Option String :=
  ticks.bind text?

end HiveDump.FileTime
