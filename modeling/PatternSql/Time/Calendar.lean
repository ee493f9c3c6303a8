/-!
# The calendar

Dates of the Gregorian calendar, extended to all years, with a year zero.  A date is
numbered by the days between it and the first of January 1970.
-/

namespace PatternSql

namespace Calendar

/-- Whether a year has a leap day. -/
def isLeapYear (year : Int) : Bool :=
  year % 4 = 0 && (year % 100 != 0 || year % 400 = 0)

/-- The number of days of a month, none outside January to December. -/
def daysInMonth (year : Int) : Nat → Nat
  | 1 => 31
  | 2 => if isLeapYear year then 29 else 28
  | 3 => 31
  | 4 => 30
  | 5 => 31
  | 6 => 30
  | 7 => 31
  | 8 => 31
  | 9 => 30
  | 10 => 31
  | 11 => 30
  | 12 => 31
  | _ => 0

/-- The number of days from the first of January of year one to that of another year. -/
def daysBeforeYear (year : Int) : Int :=
  let elapsed := year - 1
  365 * elapsed + elapsed / 4 - elapsed / 100 + elapsed / 400

/-- The number of days of a year before a month. -/
def daysBeforeMonth (year : Int) : Nat → Nat
  | 0 => 0
  | month + 1 => daysBeforeMonth year month + daysInMonth year month

end Calendar

/-- A day of the calendar, by year, month and day of the month. -/
structure Date where
  year : Int
  month : Nat
  day : Nat
deriving DecidableEq

namespace Date

open Calendar

/-- Whether a date stands in the calendar. -/
def isValid (date : Date) : Bool :=
  1 ≤ date.day && date.day ≤ daysInMonth date.year date.month

/-- The number of days from year one to the first of January 1970. -/
def epochDays : Int := 719162

/-- The number of days from the first of January 1970 to a date. -/
def dayNumber (date : Date) : Int :=
  daysBeforeYear date.year + daysBeforeMonth date.year date.month + (date.day - 1) - epochDays

/-- Days are counted from the first of January 1970. -/
theorem dayNumber_epoch : dayNumber ⟨1970, 1, 1⟩ = 0 := by decide

end Date

/-- A time of day.  A minute may have a sixty-first second. -/
structure Clock where
  hour : Nat
  minute : Nat
  second : Nat
  /-- Milliseconds after the second. -/
  millis : Nat
deriving DecidableEq

namespace Clock

/-- Whether a clock shows this time. -/
def isValid (clock : Clock) : Bool :=
  clock.hour ≤ 23 && clock.minute ≤ 59 && clock.second ≤ 60

/-- Milliseconds since midnight. -/
def millisOfDay (clock : Clock) : Int :=
  3600000 * clock.hour + 60000 * clock.minute + 1000 * clock.second + clock.millis

end Clock

/-- Milliseconds from the beginning of 1970 to a date and time of day, shown by clocks that are
`offset` minutes ahead. -/
def epochMillis (date : Date) (clock : Clock) (offset : Int) : Int :=
  86400000 * date.dayNumber + clock.millisOfDay - 60000 * offset

end PatternSql
