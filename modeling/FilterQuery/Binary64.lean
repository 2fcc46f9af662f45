/-!
# Binary floating point numbers

A 64-bit floating point number is kept as its sign and the 63 bits below the sign, read as one number,
the *magnitude*. Magnitudes are ordered as the values are: the finite ones come first, then the
infinity, then the patterns that are not a number.

Every finite value is a whole number of *units* of `2 ^ -1074`, so exact arithmetic on values is
arithmetic on natural numbers. There is one rounding, `Binary64.ofRatio`, which takes a quotient of
natural numbers to the nearest value, a tie going to the even one. Multiplication, division and the
reading of a decimal are an exact quotient followed by that rounding.
-/

namespace FilterQuery

/-- The nearest whole number to `n / d`; a half goes to the even neighbour. -/
def roundHalfEven (n d : Nat) : Nat :=
  let floor := n / d
  let twice := 2 * (n % d)
  if twice < d then floor
  else if d < twice then floor + 1
  else if floor % 2 = 0 then floor else floor + 1

/-- A 64-bit floating point number. -/
structure Binary64 where
  /-- The sign, which zero and the infinity have too. -/
  negative : Bool
  /-- The bits below the sign: eleven of the exponent, then fifty-two of the fraction. -/
  magnitude : Nat
  magnitude_lt : magnitude < Nat.pow 2 63
deriving DecidableEq

namespace Binary64

/-- The binary places after the point of one unit. -/
def unitPlaces : Nat := 1074

/-- The magnitude of the infinity. Those below it are finite. -/
def infinite : Nat := 2047 * Nat.pow 2 52

/-- The number with the given 64 bits. -/
def ofBits (bits : Nat) : Binary64 where
  negative := bits / Nat.pow 2 63 % 2 == 1
  magnitude := bits % Nat.pow 2 63
  magnitude_lt := Nat.mod_lt _ (by decide)

/-- Whether the number is neither infinite nor a pattern that is not a number. -/
def isFinite (x : Binary64) : Bool :=
  x.magnitude < infinite

/-- Whether the pattern is not a number. -/
def isNaN (x : Binary64) : Bool :=
  infinite < x.magnitude

/-- The fraction with the leading bit that a normal number leaves out. -/
def significand (x : Binary64) : Nat :=
  if x.magnitude < Nat.pow 2 52 then x.magnitude else Nat.pow 2 52 + x.magnitude % Nat.pow 2 52

/-- The power of two that the significand is multiplied by, counted from the unit. -/
def scale (x : Binary64) : Nat :=
  x.magnitude / Nat.pow 2 52 - 1

/-- The absolute value in units. The infinity counts as `2 ^ 1024`. -/
def units (x : Binary64) : Nat :=
  x.significand * Nat.pow 2 x.scale

/-- Zero with a sign. -/
def zero (negative : Bool) : Binary64 :=
  ⟨negative, 0, by decide⟩

/-- The infinity with a sign. -/
def infinity (negative : Bool) : Binary64 :=
  ⟨negative, infinite, by decide⟩

/-- The value nearest to `num / den`, with the given sign. The scale is the least one at which the
quotient has at most fifty-three bits, so that rounding the scaled quotient to a whole number rounds
it to a representable value; a carry out of the fifty-three bits lands on the next scale by itself.
What lies beyond the finite values becomes infinite. -/
def ofRatio (negative : Bool) (num den : Nat) : Binary64 :=
  let units := num * Nat.pow 2 unitPlaces
  let scale := (units / den).log2 - 52
  { negative
    magnitude := min (scale * Nat.pow 2 52 + roundHalfEven units (den * Nat.pow 2 scale)) infinite
    magnitude_lt := Nat.lt_of_le_of_lt (Nat.min_le_right _ _) (by decide) }

/-- The value nearest to an integer. -/
def ofInt (i : Int) : Binary64 :=
  ofRatio (decide (i < 0)) i.natAbs 1

/-- The value nearest to `digits * 10 ^ power`, with the given sign. A nonzero decimal whose power
exceeds 308 is beyond the finite values, and one below `10 ^ -324` rounds to zero; both are settled
before any power of ten is taken. -/
def ofDecimal (negative : Bool) (digits : Nat) (power : Int) : Binary64 :=
  if digits = 0 then zero negative
  else if 308 < power then infinity negative
  else if power + digits.log2 + 1 < -324 then zero negative
  else if 0 ≤ power then ofRatio negative (digits * Nat.pow 10 power.toNat) 1
  else ofRatio negative digits (Nat.pow 10 power.natAbs)

/-- The rounded product of two finite numbers. -/
def mul (x y : Binary64) : Binary64 :=
  ofRatio (x.negative != y.negative) (x.units * y.units)
    (Nat.pow 2 unitPlaces * Nat.pow 2 unitPlaces)

/-- The rounded quotient of two finite numbers, the second not zero. -/
def div (x y : Binary64) : Binary64 :=
  ofRatio (x.negative != y.negative) x.units y.units

/-- The whole number nearest to a finite number; a half goes away from zero. -/
def nearestInt (x : Binary64) : Int :=
  let magnitude := (2 * x.units + Nat.pow 2 unitPlaces) / (2 * Nat.pow 2 unitPlaces)
  if x.negative then -(magnitude : Int) else magnitude

end Binary64

end FilterQuery
