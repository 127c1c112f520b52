/-!
# The calendar

The proleptic Gregorian calendar on all integers, with days counted from
1970-01-01.  A date is turned into a day number by counting the days before its
year, before its month and within its month.  The way back peels the calendar's
cycles off the count of days since 0001-01-01: 400 years of 146097 days, then at
most three centuries of 36524 days, four-year groups of 1461 days and at most
three years of 365 days.  Cycles start at a year that follows a leap year, so
the one longer member of each cycle is its last.  That is why the quotients by
36524 and 365 are capped at three.
-/

namespace ChassisAdmin.Time

/-- Whether a year has a 29th of February. -/
def isLeapYear (y : Int) : Bool := y % 4 == 0 && (y % 100 != 0 || y % 400 == 0)

/-- The lengths of the months of a year. -/
def monthLengths (leap : Bool) : List Nat :=
  [31, if leap then 29 else 28, 31, 30, 31, 30, 31, 31, 30, 31, 30, 31]

/-- The day number of 1970-01-01, counted from 0001-01-01. -/
def epochDay : Int := 719162

/-- The days between 0001-01-01 and the first day of a year. -/
def daysBeforeYear (y : Int) : Int := 365 * (y - 1) + (y - 1) / 4 - (y - 1) / 100 + (y - 1) / 400

/-- The days between the first day of a year and the first day of one of its months. -/
def daysBeforeMonth (leap : Bool) (month : Nat) : Nat :=
  ((monthLengths leap).take (month - 1)).foldl (· + ·) 0

/-- The number of days a month has. -/
def daysInMonth (leap : Bool) (month : Nat) : Nat := (monthLengths leap).getD (month - 1) 0

/-- A date of the calendar. -/
structure Date where
  /-- The year; 0 is the year before 1. -/
  year : Int
  /-- The month, from 1 to 12. -/
  month : Nat
  /-- The day of the month, from 1. -/
  day : Nat
  deriving DecidableEq, Repr

/-- Whether a date stands in the calendar. -/
def Date.isValid (d : Date) : Bool :=
  1 ≤ d.month && d.month ≤ 12 && 1 ≤ d.day && d.day ≤ daysInMonth (isLeapYear d.year) d.month

/-- The day number of a date, counted from 1970-01-01. -/
def Date.dayNumber (d : Date) : Int :=
  daysBeforeYear d.year + daysBeforeMonth (isLeapYear d.year) d.month + (d.day - 1) - epochDay

/-- The year and the day of the year, from 0, that stand a count of days after 0001-01-01. -/
def yearAndDay (n : Int) : Int × Int :=
  let r := n % 146097
  let century := min (r / 36524) 3
  let inCentury := r - 36524 * century
  let inGroup := inCentury % 1461
  let year := min (inGroup / 365) 3
  (400 * (n / 146097) + 100 * century + 4 * (inCentury / 1461) + year + 1, inGroup - 365 * year)

/-- The month and the day of the month of a day counted from the first of the given months. -/
def monthAndDay : Nat → List Nat → Nat → Nat × Nat
  | month, [], day => (month, day + 1)
  | month, length :: lengths, day =>
      if day < length then (month, day + 1) else monthAndDay (month + 1) lengths (day - length)

/-- The date of a day number counted from 1970-01-01. -/
def Date.ofDayNumber (n : Int) : Date :=
  let y := yearAndDay (n + epochDay)
  let m := monthAndDay 1 (monthLengths (isLeapYear y.1)) y.2.toNat
  ⟨y.1, m.1, m.2⟩

example : (Date.mk 1970 1 1).dayNumber = 0 ∧ (Date.mk 2025 1 1).dayNumber = 20089 := by decide

example : Date.ofDayNumber (-1) = ⟨1969, 12, 31⟩ ∧ Date.ofDayNumber 11016 = ⟨2000, 2, 29⟩ := by
  decide

end ChassisAdmin.Time
