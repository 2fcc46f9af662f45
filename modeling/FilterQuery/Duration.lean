import FilterQuery.Decimal.Shortest

/-!
# Durations

A duration is a signed number of nanoseconds, bounded so that its whole milliseconds fit a signed
64-bit word with either sign. A filter shows a duration in one canonical form, `[-][D.]HH:MM:SS.mmm`,
which leaves out what is below a millisecond.
-/

namespace FilterQuery

/-- A signed span of time. -/
structure Duration where
  nanos : Int
  bounded : nanos.natAbs ≤ (Nat.pow 2 63 - 1) * 1000000
deriving DecidableEq

/-- Why a text or a number of seconds is no duration. -/
inductive DurationError where
  /-- The text has neither of the two forms of a duration. -/
  | invalid (text : String)
  /-- The duration is longer than a duration can be. -/
  | outOfRange (text : String)
deriving DecidableEq

/-- The wording of a duration error. -/
def DurationError.message : DurationError → String
  | .invalid text =>
    "Invalid duration: '" ++ text ++
      "'. Expected seconds, ISO 8601 (e.g. PT5M) or [D.]HH:MM:SS[.fff]"
  | .outOfRange text => "Duration out of range: '" ++ text ++ "'"

namespace Duration

/-- The most whole milliseconds that a duration has, of either sign. -/
def maxMillis : Nat := Nat.pow 2 63 - 1

/-- The duration of a number of nanoseconds. -/
def ofNanos? (nanos : Int) : Option Duration :=
  if h : nanos.natAbs ≤ (Nat.pow 2 63 - 1) * 1000000 then some ⟨nanos, h⟩ else none

/-- The duration of a number of milliseconds. -/
def ofMillis? (millis : Int) : Option Duration :=
  ofNanos? (millis * 1000000)

/-- The whole milliseconds of a duration; the rest is cut off toward zero. -/
def millis (d : Duration) : Int :=
  d.nanos.tdiv 1000000

/-- The milliseconds of a number of seconds: the product with a thousand, rounded as a floating point
number and then to a whole one. -/
def secondsToMillis (seconds : Binary64) : Int :=
  (seconds.mul (Binary64.ofInt 1000)).nearestInt

/-- The duration of a number of seconds, to the nearest millisecond. -/
def ofSeconds (seconds : Binary64) : Except DurationError Duration :=
  let duration? := if seconds.isFinite then ofMillis? (secondsToMillis seconds) else none
  match duration? with
  | some d => .ok d
  | none => .error (.outOfRange (String.ofList seconds.positional))

def millisPerSecond : Nat := 1000

def millisPerMinute : Nat := 60 * millisPerSecond

def millisPerHour : Nat := 60 * millisPerMinute

def millisPerDay : Nat := 24 * millisPerHour

/-- The canonical text of a number of milliseconds: days if there are any, then hours, minutes,
seconds and milliseconds, each with all its digits. -/
def clockText (millis : Int) : List Char :=
  let total := millis.natAbs
  let sign := if millis < 0 then ['-'] else []
  let days := total / millisPerDay
  let hours := total % millisPerDay / millisPerHour
  let minutes := total % millisPerHour / millisPerMinute
  let seconds := total % millisPerMinute / millisPerSecond
  let rest := total % millisPerSecond
  let dayPart := if 0 < days then Decimal.digitsOf days ++ ['.'] else []
  sign ++ dayPart ++ Decimal.paddedDigits 2 hours ++ ':' :: Decimal.paddedDigits 2 minutes ++
    ':' :: Decimal.paddedDigits 2 seconds ++ '.' :: Decimal.paddedDigits 3 rest

/-- The canonical text of a duration. -/
def canonical (d : Duration) : String :=
  String.ofList (clockText d.millis)

end Duration

end FilterQuery
