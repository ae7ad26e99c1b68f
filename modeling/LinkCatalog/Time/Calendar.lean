/-!
# The calendar

Days of the proleptic Gregorian calendar, numbered from the first of January 1970.

Years are counted from March, so that the leap day is the last day of its year: a day number is
split into cycles of 400 years, centuries, spans of four years and years, and each step is a
division by a constant.

## Main definitions

- `CivilDate` — year, month and day of the month
- `CivilDate.isValid` — the month and the day exist
- `CivilDate.dayNumber`, `CivilDate.ofDayNumber` — days counted from 1970-01-01, and back
- `weekday` — the day of the week of a day number
-/

namespace LinkCatalog

/-- A date of the calendar. Years before 1 are counted downwards: 0, -1, … -/
structure CivilDate where
  year : Int
  month : Nat
  day : Nat
deriving DecidableEq, Repr

/-- The day of the week of a day number: 0 is Sunday. The first of January 1970 was a Thursday. -/
def weekday (dayNumber : Int) : Nat :=
  ((dayNumber + 4) % 7).toNat

/-- A day of a year that starts in March. -/
structure MarchDay where
  year : Int
  dayOfYear : Nat
deriving DecidableEq, Repr

namespace MarchDay

/-- Days from the first of March of year 0 to the first of March of the given year. -/
def yearStart (year : Int) : Int :=
  365 * year + year / 4 - year / 100 + year / 400

/-- The century of a cycle of 400 years that holds the day; the last one is a day longer. -/
def century (dayOfCycle : Nat) : Nat :=
  min (dayOfCycle / 36524) 3

/-- The year of a span of four years that holds the day; the last one is a day longer. -/
def yearOfSpan (dayOfSpan : Nat) : Nat :=
  min (dayOfSpan / 365) 3

/-- The day that lies `n` days after the first of March of year 0. -/
def ofDays (n : Int) : MarchDay :=
  let dayOfCycle := (n % 146097).toNat
  let dayOfCentury := dayOfCycle - 36524 * century dayOfCycle
  let dayOfSpan := dayOfCentury % 1461
  { year := 400 * (n / 146097) + 100 * century dayOfCycle + 4 * (dayOfCentury / 1461 : Nat)
      + yearOfSpan dayOfSpan
    dayOfYear := dayOfSpan - 365 * yearOfSpan dayOfSpan }

/-- Days from the first of March to the first day of a month, months counted from March. -/
def monthStart (month : Nat) : Nat :=
  (153 * month + 2) / 5

/-- The month of a day of the year, counted from March. -/
def month (dayOfYear : Nat) : Nat :=
  (5 * dayOfYear + 2) / 153

end MarchDay

namespace CivilDate

/-- Whether a year has a 29th of February. -/
def isLeapYear (year : Int) : Bool :=
  year % 4 == 0 && (year % 100 != 0 || year % 400 == 0)

/-- The number of days of a month; 0 for a number that names no month. -/
def daysInMonth (year : Int) : Nat → Nat
  | 1 | 3 | 5 | 7 | 8 | 10 | 12 => 31
  | 4 | 6 | 9 | 11 => 30
  | 2 => if isLeapYear year then 29 else 28
  | _ => 0

/-- Whether the month exists and has the day. -/
def isValid (date : CivilDate) : Bool :=
  1 ≤ date.day && date.day ≤ daysInMonth date.year date.month

/-- Days from the first of March of year 0 to the first of January 1970. -/
def epochOffset : Int := 719468

/-- Days from 1970-01-01 to the date. -/
def dayNumber (date : CivilDate) : Int :=
  let year := if date.month ≤ 2 then date.year - 1 else date.year
  MarchDay.yearStart year + MarchDay.monthStart ((date.month + 9) % 12) + date.day - 1
    - epochOffset

/-- The date that lies `n` days after 1970-01-01. -/
def ofDayNumber (n : Int) : CivilDate :=
  let march := MarchDay.ofDays (n + epochOffset)
  let month := MarchDay.month march.dayOfYear
  { year := if month < 10 then march.year else march.year + 1
    month := if month < 10 then month + 3 else month - 9
    day := march.dayOfYear - MarchDay.monthStart month + 1 }

end CivilDate

theorem weekday_lt (dayNumber : Int) : weekday dayNumber < 7 := by
  simp only [weekday]
  omega

end LinkCatalog
