import FilterQuery.Number

/-!
# Numerals of a JSON text

The parts of a numeral and the number that it stands for, which the two forms of JSON compute in
different ways.
-/

namespace FilterQuery

namespace Json

/-- The parts of a decimal numeral. -/
structure Numeral where
  negative : Bool
  /-- The digits before the point. -/
  whole : List Char
  /-- The digits after the point, if there is a point. -/
  fraction? : Option (List Char)
  exponent? : Option Int

/-- The digits before the point: a zero alone, or digits that start with another one. -/
def readWhole : List Char → List Char × List Char
  | '0' :: rest => (['0'], rest)
  | text => (text.takeWhile Char.isDigit, text.dropWhile Char.isDigit)

/-- A point and the digits after it. Without a digit the point is left alone, unless `bare` allows
it. -/
def readPoint (bare : Bool) : List Char → Option (List Char) × List Char
  | '.' :: rest =>
    let digits := rest.takeWhile Char.isDigit
    if digits.isEmpty && !bare then (none, '.' :: rest)
    else (some digits, rest.dropWhile Char.isDigit)
  | text => (none, text)

/-- A sign in front of an exponent. -/
def readExponentSign : List Char → Bool × List Char
  | '-' :: rest => (true, rest)
  | '+' :: rest => (false, rest)
  | text => (false, text)

/-- An exponent. Without a digit it is left alone. -/
def readExponent : List Char → Option Int × List Char
  | [] => (none, [])
  | e :: rest =>
    let digits := (readExponentSign rest).2.takeWhile Char.isDigit
    if (e = 'e' ∨ e = 'E') ∧ digits ≠ [] then
      let value : Int := Decimal.valueOf digits
      (some (if (readExponentSign rest).1 then -value else value),
        (readExponentSign rest).2.dropWhile Char.isDigit)
    else (none, e :: rest)

/-- What is left after a run of characters is no longer than the text. -/
theorem length_dropWhile {p : Char → Bool} (text : List Char) :
    (text.dropWhile p).length ≤ text.length :=
  (List.dropWhile_sublist p).length_le

/-- The digits before the point take a digit, if the text starts with one. -/
theorem length_readWhole {c : Char} {cs : List Char} (hc : c.isDigit = true) :
    (readWhole (c :: cs)).2.length ≤ cs.length := by
  unfold readWhole
  split
  · simp_all
  · simpa [List.dropWhile_cons, hc] using length_dropWhile cs

/-- The digits before the point are taken from the text. -/
theorem length_append_readWhole (text : List Char) :
    (readWhole text).2.length + (readWhole text).1.length = text.length := by
  unfold readWhole
  split
  · simp
  · have := congrArg List.length (List.takeWhile_append_dropWhile (p := Char.isDigit) (l := text))
    simp only [List.length_append] at this
    dsimp only
    omega

theorem length_readPoint (bare : Bool) (text : List Char) :
    (readPoint bare text).2.length ≤ text.length := by
  unfold readPoint
  split
  · next rest =>
    have := length_dropWhile (p := Char.isDigit) rest
    dsimp only
    split <;> simp only [List.length_cons] <;> omega
  · exact Nat.le_refl _

/-- A point that is read is taken from the text. -/
theorem length_readPoint_some {bare : Bool} {text : List Char}
    (h : (readPoint bare text).1 ≠ none) : (readPoint bare text).2.length < text.length := by
  unfold readPoint at h ⊢
  split
  · next rest =>
    have := length_dropWhile (p := Char.isDigit) rest
    dsimp only at h ⊢
    split
    · next hbare => simp [hbare] at h
    · simp only [List.length_cons]
      omega
  · simp at h

theorem length_readExponentSign (text : List Char) :
    (readExponentSign text).2.length ≤ text.length := by
  unfold readExponentSign
  split <;> simp

theorem length_readExponent (text : List Char) :
    (readExponent text).2.length ≤ text.length := by
  unfold readExponent
  split
  · exact Nat.le_refl _
  · next e rest =>
    have hdrop := length_dropWhile (p := Char.isDigit) (readExponentSign rest).2
    have hsign := length_readExponentSign rest
    dsimp only
    split <;> simp only [List.length_cons] <;> omega

/-- The largest unsigned 64-bit number. -/
def maxUnsigned : Nat := Nat.pow 2 64 - 1

/-- The number of as many digits as fit an unsigned 64-bit number, after the number read so far, and
the digits that are left. -/
def collectDigits (sofar : Nat) : List Char → Nat × List Char
  | [] => (sofar, [])
  | digit :: rest =>
    let more := 10 * sofar + (digit.toNat - '0'.toNat)
    if more ≤ maxUnsigned then collectDigits more rest else (sofar, digit :: rest)

/-- A quotient by a power of ten, in steps of at most `10 ^ 308`, each rounded. -/
def divideByPower (x : Binary64) (power : Nat) : Binary64 :=
  if power ≤ 308 then x.div (Binary64.ofDecimal false 1 power)
  else if x.units = 0 then x
  else divideByPower (x.div (Binary64.ofDecimal false 1 308)) (power - 308)
termination_by power

/-- A product with a power of ten, rounded once, unless it is infinite. -/
def scaleByPower? (x : Binary64) (power : Int) : Option Binary64 :=
  if power < 0 then some (divideByPower x power.natAbs)
  else if power ≤ 308 then
    let product := x.mul (Binary64.ofDecimal false 1 power)
    if product.isFinite then some product else none
  else if x.units = 0 then some x else none

namespace Numeral

/-- The floating point number of a numeral of strict JSON. The digits that fit 64 bits are collected,
the integer digits left over count for their places, and the fraction digits left over are dropped.
The collected number is then scaled by a power of ten, which rounds a second time. -/
def strictFloat? (n : Numeral) : Option Binary64 :=
  let (whole, left) := collectDigits 0 n.whole
  let fraction := n.fraction?.getD []
  let (collected, dropped) := collectDigits whole fraction
  let power : Int := left.length - (fraction.length - dropped.length) + n.exponent?.getD 0
  (scaleByPower? (Binary64.ofInt collected) power).map fun x => { x with negative := n.negative }

/-- The number of a numeral of strict JSON. Without fraction and exponent it is an integer, if it fits 64
bits with its sign; a negative zero is a floating point number. -/
def strictValue? (n : Numeral) : Option Number :=
  let value := Decimal.valueOf n.whole
  if n.fraction?.isNone && n.exponent?.isNone then
    if !n.negative && value ≤ maxUnsigned then some (.int value)
    else if n.negative && 0 < value && value ≤ Nat.pow 2 63 then some (.int (-value))
    else n.strictFloat?.map .float
  else n.strictFloat?.map .float

/-- The number of a numeral of lenient JSON. Without point and exponent it is an integer, which has to
fit 64 bits with its sign; otherwise it is the nearest floating point number, which has to be
finite. -/
def lenientValue? (n : Numeral) : Option Number :=
  if n.fraction?.isNone && n.exponent?.isNone then
    let value : Int := Decimal.valueOf n.whole
    let signed := if n.negative then -value else value
    if -(Nat.pow 2 63 : Int) ≤ signed ∧ signed < Nat.pow 2 63 then some (.int signed) else none
  else
    let fraction := n.fraction?.getD []
    let value := Binary64.ofDecimal n.negative (Decimal.valueOf (n.whole ++ fraction))
      (n.exponent?.getD 0 - fraction.length)
    if value.isFinite then some (.float value) else none

end Numeral

end Json

end FilterQuery
