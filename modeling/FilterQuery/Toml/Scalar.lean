import FilterQuery.Calendar
import FilterQuery.Json.Escape
import FilterQuery.Decimal
import FilterQuery.Toml

/-!
# TOML scalars without quotes

Integers, floating point numbers, truth values, dates and times. Each is written without blanks, apart
from the one that may stand between a date and a time.
-/

namespace FilterQuery

namespace Toml

/-- The digits of a number without the underscores that may stand between two of them. -/
def plainDigits? (isDigit : Char → Bool) : List Char → Option (List Char)
  | [] => none
  | [c] => if isDigit c then some [c] else none
  | c :: '_' :: d :: rest =>
    if isDigit c && isDigit d then (plainDigits? isDigit (d :: rest)).map (c :: ·) else none
  | c :: rest => if isDigit c then (plainDigits? isDigit rest).map (c :: ·) else none

/-- The digits of the whole part of a decimal number, which starts with a zero only if it is zero. -/
def wholeDigits? (text : List Char) : Option (List Char) := do
  let digits ← plainDigits? Char.isDigit text
  match digits with
  | '0' :: _ :: _ => none
  | digits => some digits

/-- A sign, and whether it is negative. -/
def readSign : List Char → Bool × List Char
  | '-' :: rest => (true, rest)
  | '+' :: rest => (false, rest)
  | text => (false, text)

/-- Whether the character is a digit of the base eight. -/
def isOctal (c : Char) : Bool :=
  '0' ≤ c && c ≤ '7'

/-- Whether the character is a digit of the base two. -/
def isBinary (c : Char) : Bool :=
  c == '0' || c == '1'

/-- An integer of the base ten, sixteen, eight or two. It has to fit 128 bits. -/
def integer? (text : List Char) : Option Int := do
  let value : Int ←
    match text with
    | '0' :: 'x' :: rest => do
      let digits ← plainDigits? (fun c => (Json.hexValue? c).isSome) rest
      (Json.hexNumber? digits).map Int.ofNat
    | '0' :: 'o' :: rest => (plainDigits? isOctal rest).map fun ds => (Nat.ofDigitChars 8 ds 0 : Int)
    | '0' :: 'b' :: rest => (plainDigits? isBinary rest).map fun ds => (Nat.ofDigitChars 2 ds 0 : Int)
    | text =>
      let (negative, unsigned) := readSign text
      (wholeDigits? unsigned).map fun ds =>
        if negative then -(Decimal.valueOf ds : Int) else Decimal.valueOf ds
  if -(Nat.pow 2 127 : Int) ≤ value ∧ value < Nat.pow 2 128 then some value else none

/-- The exponent of a floating point number, zero if there is none. -/
def exponent? : List Char → Option Int
  | [] => some 0
  | _ :: rest =>
    let (negative, unsigned) := readSign rest
    (plainDigits? Char.isDigit unsigned).map fun ds =>
      if negative then -(Decimal.valueOf ds : Int) else Decimal.valueOf ds

/-- A floating point number with a fraction or an exponent, which has to be finite, or one of the words
for infinity and for what is not a number. -/
def float? (text : List Char) : Option Binary64 :=
  let (negative, unsigned) := readSign text
  if unsigned = "inf".toList then some (.infinity negative)
  else if unsigned = "nan".toList then some ⟨negative, Binary64.infinite + Nat.pow 2 51, by decide⟩
  else do
    let isExponent (c : Char) : Bool := c == 'e' || c == 'E'
    let mantissa := unsigned.takeWhile (!isExponent ·)
    let exponent ← exponent? (unsigned.dropWhile (!isExponent ·))
    let whole ← wholeDigits? (mantissa.takeWhile (· != '.'))
    let fraction ←
      match mantissa.dropWhile (· != '.') with
      | [] => if mantissa.length = unsigned.length then none else some []
      | _ :: rest => plainDigits? Char.isDigit rest
    let value := Binary64.ofDecimal negative (Decimal.valueOf (whole ++ fraction))
      (exponent - fraction.length)
    if value.isFinite then some value else none

/-- A number of two digits up to the given one, and the rest. -/
def twoDigits? (limit : Nat) : List Char → Option (Nat × List Char)
  | a :: b :: rest =>
    if a.isDigit && b.isDigit && Decimal.valueOf [a, b] ≤ limit then
      some (Decimal.valueOf [a, b], rest)
    else none
  | _ => none

/-- A date of the calendar, and the rest. -/
def date? : List Char → Option (Date × List Char)
  | a :: b :: c :: d :: '-' :: rest => do
    if !([a, b, c, d].all Char.isDigit) then none
    let (month, rest) ← twoDigits? 12 rest
    match rest with
    | '-' :: rest => do
      let (day, rest) ← twoDigits? 31 rest
      let date : Date := ⟨Decimal.valueOf [a, b, c, d], month, day⟩
      if date.isValid then some (date, rest) else none
    | _ => none
  | _ => none

/-- What follows the seconds of a time: a fraction, if there is a point. -/
def afterFraction? : List Char → Option (List Char)
  | '.' :: rest =>
    if (rest.takeWhile Char.isDigit).isEmpty then none else some (rest.dropWhile Char.isDigit)
  | text => some text

/-- What follows a time of day. The seconds may be left out. -/
def afterTime? (text : List Char) : Option (List Char) := do
  let (_, rest) ← twoDigits? 23 text
  match rest with
  | ':' :: rest => do
    let (_, rest) ← twoDigits? 59 rest
    match rest with
    | ':' :: rest => do
      let (_, rest) ← twoDigits? 60 rest
      afterFraction? rest
    | rest => some rest
  | _ => none

/-- Whether the text is nothing or the offset of a zone. -/
def isOffset : List Char → Bool
  | [] => true
  | ['Z'] => true
  | ['z'] => true
  | sign :: rest =>
    (sign == '+' || sign == '-') &&
      match twoDigits? 23 rest with
      | some (_, ':' :: minutes) =>
        match twoDigits? 59 minutes with
        | some (_, []) => true
        | _ => false
      | _ => false

/-- Whether the text is a date, a time, or a date and a time with or without a zone. -/
def isDatetime (text : List Char) : Bool :=
  match date? text with
  | some (_, []) => true
  | some (_, mark :: time) =>
    (mark == 'T' || mark == 't' || mark == ' ') &&
      match afterTime? time with
      | some rest => isOffset rest
      | none => false
  | none => afterTime? text = some []

/-- The value of a scalar without quotes. -/
def scalar? (text : List Char) : Option Toml :=
  if text = "true".toList then some (.boolean true)
  else if text = "false".toList then some (.boolean false)
  else if isDatetime text then some (.datetime (String.ofList text))
  else ((integer? text).map .integer).or ((float? text).map .float)

end Toml

end FilterQuery
