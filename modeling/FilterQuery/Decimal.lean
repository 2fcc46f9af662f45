/-!
# Decimal numbers and their digits

A decimal is a whole number of some power of ten. It can be laid out with all its places, or with one
digit before the point and an exponent.
-/

namespace FilterQuery

/-- The number `digits * 10 ^ power`. -/
structure Decimal where
  digits : Nat
  power : Int
deriving DecidableEq

namespace Decimal

/-- The decimal digits of a natural number. -/
def digitsOf (n : Nat) : List Char :=
  Nat.toDigits 10 n

/-- The decimal digits of a natural number, with zeros in front up to the given width. -/
def paddedDigits (width n : Nat) : List Char :=
  let digits := digitsOf n
  List.replicate (width - digits.length) '0' ++ digits

/-- The number that a list of decimal digits stands for. -/
def valueOf (digits : List Char) : Nat :=
  Nat.ofDigitChars 10 digits 0

/-- The digits of an integer, with a sign in front of a negative one. -/
def integerText (i : Int) : List Char :=
  if i < 0 then '-' :: digitsOf i.natAbs else digitsOf i.natAbs

/-- The exponent of the leading digit. -/
def exponent (d : Decimal) : Int :=
  d.power + (digitsOf d.digits).length - 1

/-- All places of the decimal, and no point if it is whole. -/
def positional (d : Decimal) : List Char :=
  let digits := digitsOf d.digits
  match d.power with
  | .ofNat zeros => digits ++ List.replicate zeros '0'
  | .negSucc n =>
    let places := n + 1
    if places < digits.length then
      digits.take (digits.length - places) ++ '.' :: digits.drop (digits.length - places)
    else '0' :: '.' :: List.replicate (places - digits.length) '0' ++ digits

/-- One digit, a point if more digits follow, and the exponent with its sign. -/
def scientific (d : Decimal) : List Char :=
  let sign := if d.exponent < 0 then '-' else '+'
  let tail := 'e' :: sign :: digitsOf d.exponent.natAbs
  match digitsOf d.digits with
  | [] => tail
  | [digit] => digit :: tail
  | digit :: more => digit :: '.' :: more ++ tail

end Decimal

end FilterQuery
