import FilterQuery.Calendar
import FilterQuery.Decimal

/-!
# Moments

A moment is a point in time, with nanoseconds, in a range of years that a date of 32 bits can hold. A leap
second is kept as the second before it, with a second or more of nanoseconds. Moments are written in
coordinated universal time.
-/

namespace FilterQuery

/-- A point in time. -/
structure Moment where
  /-- The seconds since the start of 1970, without leap seconds. -/
  seconds : Int
  /-- The nanoseconds after them. -/
  nanos : Nat
  seconds_ge : -8334601228800 ≤ seconds
  seconds_le : seconds ≤ 8210266876799
  nanos_lt : nanos < 2000000000
  /-- Only a last second of a minute is followed by a leap second. -/
  leap_minute : 1000000000 ≤ nanos → seconds % 60 = 59
deriving DecidableEq

namespace Moment

def secondsPerDay : Int := 86400

/-- The moment with the given seconds and nanoseconds. -/
def ofUnix? (seconds : Int) (nanos : Nat) : Option Moment :=
  if h : -8334601228800 ≤ seconds ∧ seconds ≤ 8210266876799 ∧ nanos < 2000000000 ∧
      (1000000000 ≤ nanos → seconds % 60 = 59) then
    some ⟨seconds, nanos, h.1, h.2.1, h.2.2.1, h.2.2.2⟩
  else none

/-- A year: four digits, or a sign and at least four digits beyond the years that have four. -/
def yearText (year : Int) : List Char :=
  if 0 ≤ year ∧ year ≤ 9999 then Decimal.paddedDigits 4 year.toNat
  else (if year < 0 then '-' else '+') :: Decimal.paddedDigits 4 year.natAbs

/-- The date and time to the second; a leap second is the second 60. -/
def clockText (moment : Moment) : List Char :=
  let date := Date.ofDayNumber (moment.seconds / secondsPerDay)
  let second := (moment.seconds % secondsPerDay).toNat
  let leap := moment.nanos / 1000000000
  yearText date.year ++ '-' :: Decimal.paddedDigits 2 date.month ++
    '-' :: Decimal.paddedDigits 2 date.day ++ 'T' :: Decimal.paddedDigits 2 (second / 3600) ++
    ':' :: Decimal.paddedDigits 2 (second / 60 % 60) ++
    ':' :: Decimal.paddedDigits 2 (second % 60 + leap)

/-- The fraction of the second, exactly: none, or three, six or nine digits. -/
def fractionText (moment : Moment) : List Char :=
  let nanos := moment.nanos % 1000000000
  if nanos = 0 then []
  else if nanos % 1000000 = 0 then '.' :: Decimal.paddedDigits 3 (nanos / 1000000)
  else if nanos % 1000 = 0 then '.' :: Decimal.paddedDigits 6 (nanos / 1000)
  else '.' :: Decimal.paddedDigits 9 nanos

/-- The moment with as many digits as it needs. -/
def exactText (moment : Moment) : String :=
  String.ofList (moment.clockText ++ moment.fractionText ++ ['Z'])

/-- The moment to the millisecond, without what is below it. -/
def millisText (moment : Moment) : String :=
  String.ofList (moment.clockText ++
    '.' :: Decimal.paddedDigits 3 (moment.nanos % 1000000000 / 1000000) ++ ['Z'])

end Moment

end FilterQuery
