/-!
# The calendar

Dates of the Gregorian calendar, extended to all years, and the number of a day counted from 1 January
1970. Years are counted from March here, so that the day that a leap year adds is the last one of its
year, and 400 of them make a cycle of 146097 days.
-/

namespace FilterQuery

/-- A date of the calendar. -/
structure Date where
  year : Int
  month : Nat
  day : Nat
deriving DecidableEq

namespace Date

/-- Whether a year has a 29 February. -/
def isLeapYear (year : Int) : Bool :=
  year % 4 == 0 && (year % 100 != 0 || year % 400 == 0)

/-- The number of days of a month. -/
def monthLength (year : Int) (month : Nat) : Nat :=
  if month = 2 then if isLeapYear year then 29 else 28
  else if month = 4 ∨ month = 6 ∨ month = 9 ∨ month = 11 then 30
  else 31

/-- Whether the calendar has the date. -/
def isValid (date : Date) : Bool :=
  1 ≤ date.month && date.month ≤ 12 && 1 ≤ date.day && date.day ≤ monthLength date.year date.month

/-- The days from 1 March of year 0 to 1 January 1970. -/
def epochDay : Int := 719468

/-- The number of a date's day. Of the months that are counted from March, the first `m` have
`(153 * m + 2) / 5` days. -/
def dayNumber (date : Date) : Int :=
  let year := if date.month ≤ 2 then date.year - 1 else date.year
  let month := (date.month + 9) % 12
  let dayOfYear := (153 * month + 2) / 5 + (date.day - 1)
  365 * year + year / 4 - year / 100 + year / 400 + dayOfYear - epochDay

/-- The date with the given day number. -/
def ofDayNumber (number : Int) : Date :=
  let shifted := number + epochDay
  let cycle := shifted / 146097
  let dayOfCycle := (shifted % 146097).toNat
  let yearOfCycle :=
    (dayOfCycle - dayOfCycle / 1460 + dayOfCycle / 36524 - dayOfCycle / 146096) / 365
  let dayOfYear := dayOfCycle - (365 * yearOfCycle + yearOfCycle / 4 - yearOfCycle / 100)
  let monthOfYear := (5 * dayOfYear + 2) / 153
  let day := dayOfYear - (153 * monthOfYear + 2) / 5 + 1
  let month := if monthOfYear < 10 then monthOfYear + 3 else monthOfYear - 9
  let year := 400 * cycle + yearOfCycle
  ⟨if month ≤ 2 then year + 1 else year, month, day⟩

end Date

end FilterQuery
