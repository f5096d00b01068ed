import ProbeWatch.Duration

/-!
# Moments

A moment is a second of the proleptic Gregorian calendar in UTC and the nanoseconds into it.  A
count of a second or more stands for a leap second after that second.
-/

namespace ProbeWatch

/-- A point in time. -/
structure Moment where
  /-- Seconds since the start of 1970. -/
  seconds : Int
  /-- Nanoseconds into the second, up to two seconds in a leap second. -/
  nanos : Nat
deriving DecidableEq, Inhabited, Repr

/-- A day of the calendar. -/
structure CivilDate where
  year : Int
  month : Nat
  day : Nat
deriving DecidableEq, Inhabited, Repr

namespace CivilDate

/-- The first year that a moment can lie in. -/
def minYear : Int := -262143

/-- The last year that a moment can lie in. -/
def maxYear : Int := 262142

/-- Whether the year has a leap day. -/
def isLeapYear (year : Int) : Bool :=
  year % 4 == 0 && (year % 100 != 0 || year % 400 == 0)

/-- The number of days in a month. -/
def daysInMonth (year : Int) (month : Nat) : Nat :=
  if month == 2 then (if isLeapYear year then 29 else 28)
  else if month == 4 || month == 6 || month == 9 || month == 11 then 30
  else 31

/-- The year within a cycle of 400 years, from the day within the cycle; years start in March. -/
def yearOfEra (dayOfEra : Nat) : Nat :=
  (dayOfEra - dayOfEra / 1460 + dayOfEra / 36524 - dayOfEra / 146096) / 365

/-- The date that lies a number of days after the first day of 1970. -/
def ofDays (days : Int) : CivilDate :=
  let shifted := days + 719468
  let era := shifted / 146097
  let dayOfEra := (shifted % 146097).toNat
  let yearOfEra := yearOfEra dayOfEra
  let dayOfYear := dayOfEra - (365 * yearOfEra + yearOfEra / 4 - yearOfEra / 100)
  let monthFromMarch := (5 * dayOfYear + 2) / 153
  let day := dayOfYear - (153 * monthFromMarch + 2) / 5 + 1
  let month := if monthFromMarch < 10 then monthFromMarch + 3 else monthFromMarch - 9
  let year := era * 400 + yearOfEra
  ⟨if month ≤ 2 then year + 1 else year, month, day⟩

/-- The number of days from the first day of 1970 to the date. -/
def toDays (date : CivilDate) : Int :=
  let year := if date.month ≤ 2 then date.year - 1 else date.year
  let era := year / 400
  let yearOfEra := (year % 400).toNat
  let monthFromMarch := if 2 < date.month then date.month - 3 else date.month + 9
  let dayOfYear := (153 * monthFromMarch + 2) / 5 + date.day - 1
  let dayOfEra := yearOfEra * 365 + yearOfEra / 4 - yearOfEra / 100 + dayOfYear
  era * 146097 + dayOfEra - 719468

/-- The year, month and day with hyphens; a year of other than four digits carries its sign. -/
def render (date : CivilDate) : String :=
  let year :=
    if 0 ≤ date.year ∧ date.year ≤ 9999 then Duration.padded 4 date.year.toNat
    else (if date.year < 0 then "-" else "+") ++ Duration.padded 4 date.year.natAbs
  year ++ "-" ++ Duration.padded 2 date.month ++ "-" ++ Duration.padded 2 date.day

end CivilDate

namespace Moment

/-- The number of seconds in a day. -/
def secondsPerDay : Int := 86400

/-- The date of a moment. -/
def date (moment : Moment) : CivilDate :=
  CivilDate.ofDays (moment.seconds / secondsPerDay)

/-- Whether the moment lies in a year that moments can have. -/
def isInRange (moment : Moment) : Bool :=
  CivilDate.minYear ≤ moment.date.year && moment.date.year ≤ CivilDate.maxYear

/-- The fraction of a second in milliseconds, microseconds or nanoseconds, whichever is exact and
shortest. -/
def fractionText (nanos : Nat) : String :=
  if nanos == 0 then ""
  else if nanos % 1000000 == 0 then "." ++ Duration.padded 3 (nanos / 1000000)
  else if nanos % 1000 == 0 then "." ++ Duration.padded 6 (nanos / 1000)
  else "." ++ Duration.padded 9 nanos

/-- The date and time of day in UTC, without a zone. -/
def localText (moment : Moment) : String :=
  let second := (moment.seconds % secondsPerDay).toNat
  let (leap, nanos) :=
    if 1000000000 ≤ moment.nanos then (1, moment.nanos - 1000000000) else (0, moment.nanos)
  moment.date.render ++ "T" ++ Duration.padded 2 (second / 3600) ++ ":" ++
    Duration.padded 2 (second / 60 % 60) ++ ":" ++ Duration.padded 2 (second % 60 + leap) ++
    fractionText nanos

/-- The text of a moment with its zone as an offset. -/
def offsetText (moment : Moment) : String := moment.localText ++ "+00:00"

/-- The text of a moment with its zone as a letter. -/
def zuluText (moment : Moment) : String := moment.localText ++ "Z"

/-- The moment a positive number of milliseconds after the start of 1970; every other number means
that the moment is not known. -/
def ofMillis? (millis : Int64) : Option Moment :=
  let value := millis.toInt
  if value ≤ 0 then
    none
  else
    let moment : Moment := ⟨value / 1000, (value % 1000).toNat * 1000000⟩
    if moment.isInRange then some moment else none

end Moment
end ProbeWatch
