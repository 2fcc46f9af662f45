import FilterQuery.Moment
import FilterQuery.Text.Blank

/-!
# Reading moments

A moment is written as a date, one of `T`, `t` and a space, a time, and a zone. Blanks may stand before a
number, before a dash or colon of the date and time, before the zone and at the end. A number is checked
against its range as soon as it is read; whether the calendar has the date is checked last.
-/

namespace FilterQuery

/-- Why a text is no moment. -/
inductive MomentError where
  /-- The text ends where something is required. -/
  | tooShort
  /-- A character stands where it cannot. -/
  | invalid
  /-- A number, the date or the zone is beyond its range. -/
  | outOfRange
  /-- Something follows the moment. -/
  | trailing
  /-- The moment in coordinated universal time is beyond the range of moments. -/
  | impossible
deriving DecidableEq

/-- The wording of a moment error. -/
def MomentError.message : MomentError → String
  | .tooShort => "premature end of input"
  | .invalid => "input contains invalid characters"
  | .outOfRange => "input is out of range"
  | .trailing => "trailing input"
  | .impossible => "no possible date and time matching input"

namespace Moment

/-- Reads something from the start of a text, and leaves the rest. -/
abbrev Reader (α : Type) := StateT (List Char) (Except MomentError) α

/-- A number that starts here, of at most as many digits as given. -/
def readDigits (width? : Option Nat) : Reader Nat := fun text =>
  match text with
  | [] => .error .tooShort
  | c :: _ =>
    let digits := (width?.elim text text.take).takeWhile Char.isDigit
    let value := Decimal.valueOf digits
    if !c.isDigit then .error .invalid
    else if Nat.pow 2 63 ≤ value then .error .outOfRange
    else .ok (value, text.drop digits.length)

/-- Leaves out the blanks that start here. -/
def skipBlanks : Reader Unit := fun text =>
  .ok ((), Text.trimStart text)

/-- The given character, after any blanks. -/
def readSeparator (separator : Char) : Reader Unit := do
  skipBlanks
  fun text =>
    match text with
    | [] => .error .tooShort
    | c :: rest => if c = separator then .ok ((), rest) else .error .invalid

/-- A number in the given range, of one or two digits, after any blanks. -/
def readField (low high : Nat) : Reader Nat := do
  skipBlanks
  let value ← readDigits (some 2)
  if low ≤ value ∧ value ≤ high then return value else throw .outOfRange

/-- A year of 32 bits, after any blanks. After a sign it may have any number of digits. -/
def readYear : Reader Int := do
  skipBlanks
  let year ← fun text =>
    match text with
    | '-' :: rest => ((fun n : Nat => -(n : Int)) <$> readDigits none : Reader Int) rest
    | '+' :: rest => ((fun n : Nat => (n : Int)) <$> readDigits none : Reader Int) rest
    | text => ((fun n : Nat => (n : Int)) <$> readDigits (some 4) : Reader Int) text
  if -(Nat.pow 2 31 : Int) ≤ year ∧ year < Nat.pow 2 31 then return year else throw .outOfRange

/-- The mark between date and time. -/
def readTimeMark : Reader Unit := fun text =>
  match text with
  | [] => .error .tooShort
  | c :: rest => if c = 'T' ∨ c = 't' ∨ c = ' ' then .ok ((), rest) else .error .invalid

/-- The nanoseconds of a fraction, if there is one. Digits after the ninth do not count. -/
def readFraction : Reader Nat := fun text =>
  match text with
  | '.' :: rest =>
    match readDigits (some 9) rest with
    | .error e => .error e
    | .ok (value, afterNine) =>
      .ok (value * Nat.pow 10 (9 - (rest.length - afterNine.length)),
        afterNine.dropWhile Char.isDigit)
  | text => .ok (0, text)

/-- Two digits that start here. A text of less than two bytes is too short for them. -/
def readTwoDigits : Reader (Nat × Nat) := fun text =>
  match text with
  | [] => .error .tooShort
  | [c] => .error (if c.toNat < 0x80 then .tooShort else .invalid)
  | a :: b :: rest =>
    if a.isDigit ∧ b.isDigit then .ok ((a.toNat - '0'.toNat, b.toNat - '0'.toNat), rest)
    else .error .invalid

/-- The sign of a zone, where the mathematical minus sign is also one: whether it is negative. -/
def readZoneSign : Reader Bool := fun text =>
  match text with
  | [] => .error .tooShort
  | c :: rest =>
    if c = '+' then .ok (false, rest)
    else if c = '-' ∨ c = '\u2212' then .ok (true, rest)
    else .error .invalid

/-- Leaves out colons and blanks. -/
def skipColons : Reader Unit := fun text =>
  .ok ((), text.dropWhile fun c => c == ':' || Text.isBlank c)

/-- The hours and minutes of a zone, as seconds to the east. -/
def readZoneOffset : Reader Int := do
  let negative ← readZoneSign
  let (hourTens, hourOnes) ← readTwoDigits
  skipColons
  let (minuteTens, minuteOnes) ← readTwoDigits
  if 6 ≤ minuteTens then throw .outOfRange
  let seconds : Int := (10 * hourTens + hourOnes) * 3600 + (10 * minuteTens + minuteOnes) * 60
  return if negative then -seconds else seconds

/-- A zone: its name or letter, or an offset. -/
def readZone : Reader Int := fun text =>
  match text with
  | u :: t :: c :: rest =>
    if u.toLower = 'u' ∧ t.toLower = 't' ∧ c.toLower = 'c' then .ok (0, rest)
    else if u = 'Z' ∨ u = 'z' then .ok (0, t :: c :: rest)
    else readZoneOffset text
  | u :: rest => if u = 'Z' ∨ u = 'z' then .ok (0, rest) else readZoneOffset text
  | [] => readZoneOffset []

/-- The end of the text, after any blanks. -/
def readEnd : Reader Unit := fun text =>
  if (Text.trimStart text).isEmpty then .ok ((), []) else .error .trailing

/-- The parts of a written moment. -/
structure Written where
  date : Date
  hour : Nat
  minute : Nat
  second : Nat
  nanos : Nat
  /-- The seconds that the zone is east of universal time. -/
  offset : Int

/-- The parts of a whole text. -/
def readWritten : Reader Written := do
  let year ← readYear
  readSeparator '-'
  let month ← readField 1 12
  readSeparator '-'
  let day ← readField 1 31
  readTimeMark
  let hour ← readField 0 23
  readSeparator ':'
  let minute ← readField 0 59
  readSeparator ':'
  let second ← readField 0 60
  let nanos ← readFraction
  skipBlanks
  let offset ← readZone
  readEnd
  return ⟨⟨year, month, day⟩, hour, minute, second, nanos, offset⟩

/-- The moment of the parts. The second 60 is the second 59 with a second of nanoseconds more. -/
def Written.moment (w : Written) : Except MomentError Moment :=
  if !w.date.isValid || w.date.year < -262143 || 262142 < w.date.year || 86400 ≤ w.offset.natAbs then
    .error .outOfRange
  else
    let second := min w.second 59
    let nanos := if w.second = 60 then w.nanos + 1000000000 else w.nanos
    let seconds := w.date.dayNumber * secondsPerDay + w.hour * 3600 + w.minute * 60 + second - w.offset
    match ofUnix? seconds nanos with
    | some moment => .ok moment
    | none => .error .impossible

/-- The moment that a text stands for. -/
def parse (text : String) : Except MomentError Moment := do
  let (written, _) ← readWritten text.toList
  written.moment

end Moment

end FilterQuery
