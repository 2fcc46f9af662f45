import FilterQuery.Duration
import FilterQuery.Text.Blank
import FilterQuery.Text.Digit
import FilterQuery.Word

/-!
# Reading durations

A duration is written in one of two forms, with blanks around it and a minus sign in front allowed:

* the interval form `P[nW][nD][T[nH][nM][n[.f]S]]`, with at least one component, and with one after the
  `T` if there is a `T`;
* the clock form `[D.]H[H]:MM:SS[.f]`.

Both are read into the same `Components`, so that the value of a duration is computed once. A component
is any run of decimal digits of any script, but only the ten ASCII digits have a value: another digit
in a whole component makes the duration too long, and in the seconds it makes them count as none.

The value is a signed word of milliseconds. It is summed up component by component, and every product
and every sum on the way has to fit a word.
-/

namespace FilterQuery

namespace Duration

open Text (isDecimalDigit)

/-- The digits of each component of a written duration; an absent component has none. -/
structure Components where
  negative : Bool
  weeks : List Char
  days : List Char
  hours : List Char
  minutes : List Char
  seconds : List Char
  fraction : List Char
deriving DecidableEq

/-- The run of digits at the start of a text. -/
def digitRun (text : List Char) : List Char :=
  text.takeWhile isDecimalDigit

/-- What follows the run of digits at the start of a text. -/
def afterDigits (text : List Char) : List Char :=
  text.dropWhile isDecimalDigit

/-- A minus sign at the start, if there is one, and the rest. -/
def readSign : List Char → Bool × List Char
  | '-' :: rest => (true, rest)
  | text => (false, text)

/-- A run of digits closed by the letter of its unit, and the rest. Without them nothing is read. -/
def readComponent (unit : Char) (text : List Char) : List Char × List Char :=
  match digitRun text, afterDigits text with
  | digit :: digits, c :: rest => if c = unit then (digit :: digits, rest) else ([], text)
  | _, _ => ([], text)

/-- The digits of a fraction, which follow a point, and the rest. -/
def readFraction : List Char → List Char × List Char
  | '.' :: rest =>
    match digitRun rest with
    | [] => ([], '.' :: rest)
    | digits => (digits, afterDigits rest)
  | text => ([], text)

/-- The seconds of the interval form: digits, a fraction if there is one, and the unit. -/
def readSeconds (text : List Char) : (List Char × List Char) × List Char :=
  match digitRun text, readFraction (afterDigits text) with
  | digit :: digits, (fraction, 'S' :: rest) => ((digit :: digits, fraction), rest)
  | _, _ => (([], []), text)

/-- The interval form. -/
def readInterval (text : List Char) : Option Components :=
  let (negative, unsigned) := readSign text
  match unsigned with
  | 'P' :: date =>
    let (weeks, afterWeeks) := readComponent 'W' date
    let (days, afterDays) := readComponent 'D' afterWeeks
    match afterDays with
    | [] =>
      if weeks = [] ∧ days = [] then none
      else some ⟨negative, weeks, days, [], [], [], []⟩
    | 'T' :: time =>
      let (hours, afterHours) := readComponent 'H' time
      let (minutes, afterMinutes) := readComponent 'M' afterHours
      let ((seconds, fraction), rest) := readSeconds afterMinutes
      if hours = [] ∧ minutes = [] ∧ seconds = [] then none
      else if rest = [] then some ⟨negative, weeks, days, hours, minutes, seconds, fraction⟩
      else none
    | _ => none
  | _ => none

/-- The hours, minutes and seconds of the clock form, which end the text. -/
def readClockTime (negative : Bool) (days text : List Char) : Option Components :=
  let hours := digitRun text
  match afterDigits text with
  | ':' :: afterHours =>
    let minutes := digitRun afterHours
    match afterDigits afterHours with
    | ':' :: afterMinutes =>
      let seconds := digitRun afterMinutes
      let (fraction, rest) := readFraction (afterDigits afterMinutes)
      if (hours.length = 1 ∨ hours.length = 2) ∧ minutes.length = 2 ∧ seconds.length = 2 ∧
          rest = [] then
        some ⟨negative, [], days, hours, minutes, seconds, fraction⟩
      else none
    | _ => none
  | _ => none

/-- The clock form. -/
def readClock (text : List Char) : Option Components :=
  let (negative, unsigned) := readSign text
  match digitRun unsigned, afterDigits unsigned with
  | digit :: digits, '.' :: time => readClockTime negative (digit :: digits) time
  | _, _ => readClockTime negative [] unsigned

/-- The components of a written duration. -/
def readComponents (text : List Char) : Option Components :=
  (readInterval text).or (readClock text)

namespace Components

/-- The value of the digits of a whole component; absent digits count as zero. -/
def wholeValue? (digits : List Char) : Option Nat :=
  if digits.all Char.isDigit then some (Decimal.valueOf digits) else none

/-- The seconds as a floating point number. -/
def secondsValue (c : Components) : Binary64 :=
  if (c.seconds ++ c.fraction).all Char.isDigit then
    Binary64.ofDecimal false (Decimal.valueOf (c.seconds ++ c.fraction)) (-c.fraction.length)
  else Binary64.zero false

/-- The digits of the whole components, each with the milliseconds of its unit. -/
def wholeParts (c : Components) : List (List Char × Int64) :=
  [(c.weeks, Int64.ofNat (7 * millisPerDay)), (c.days, Int64.ofNat millisPerDay),
    (c.hours, Int64.ofNat millisPerHour), (c.minutes, Int64.ofNat millisPerMinute)]

/-- The milliseconds of one more whole component are added to a sum. -/
def addPart (sum : Int64) (part : List Char × Int64) : Option Int64 := do
  let count ← (wholeValue? part.1).bind fun n => Word.ofInt? n
  let millis ← Word.checkedMul count part.2
  Word.checkedAdd sum millis

/-- The milliseconds of the seconds and of some whole components. -/
def sumWord? (c : Components) (parts : List (List Char × Int64)) : Option Int64 := do
  let seconds ← Word.ofInt? (secondsToMillis c.secondsValue)
  parts.foldlM addPart seconds

/-- The milliseconds of all components together, with the sign. -/
def millisWord? (c : Components) : Option Int64 :=
  (c.sumWord? c.wholeParts).map fun total => if c.negative then -total else total

end Components

/-- The duration that a text stands for. A message shows the text with its blanks. -/
def parse (text : String) : Except DurationError Duration :=
  match readComponents (Text.trim text.toList) with
  | none => .error (.invalid text)
  | some components =>
    match components.millisWord?.bind fun millis => ofMillis? millis.toInt with
    | none => .error (.outOfRange text)
    | some d => .ok d

end Duration

end FilterQuery
