import FilterQuery.Binary64
import FilterQuery.Decimal

/-!
# The shortest decimal of a floating point number

The decimals that round to a floating point number fill an interval around it, whose ends belong to it
just when the significand is even. The shortest of them is a multiple of the largest power of ten
that has a multiple in the interval, and of two such multiples the nearer one.

All quantities are compared on one scale: quarters of a unit, times `10 ^ 324`. On it the number, the
ends of its interval and the powers of ten from `10 ^ -324` on are whole.
-/

namespace FilterQuery

namespace Binary64

/-- The ends of the interval of a finite number, in quarters of a unit. Below a power of two the
numbers lie twice as close, so the interval reaches only half as far down from one. -/
def interval (x : Binary64) : Nat × Nat :=
  let step := Nat.pow 2 x.scale
  let below := if x.significand = Nat.pow 2 52 ∧ 0 < x.scale then step else 2 * step
  (4 * x.units - below, 4 * x.units + 2 * step)

/-- The multiple of `10 ^ (index - 324)` in the interval that is nearest to the number, if there is one.
Only the two neighbours of the number on that grid can be it. -/
def onGrid (x : Binary64) (index : Nat) : Option Nat :=
  let step := 4 * Nat.pow 2 unitPlaces * Nat.pow 10 index
  let value := 4 * x.units * Nat.pow 10 324
  let low := x.interval.1 * Nat.pow 10 324
  let high := x.interval.2 * Nat.pow 10 324
  let floor := value / step
  let holds (n : Nat) : Bool :=
    if x.significand % 2 = 0 then decide (low ≤ n * step ∧ n * step ≤ high)
    else decide (low < n * step ∧ n * step < high)
  if !holds floor then if holds (floor + 1) then some (floor + 1) else none
  else if !holds (floor + 1) then some floor
  else some (roundHalfEven value step)

/-- The first grid with a hit, from the given one on to finer ones. -/
def searchGrid (x : Binary64) : Nat → Decimal
  | 0 => ⟨(x.onGrid 0).getD 0, -324⟩
  | index + 1 =>
    match x.onGrid (index + 1) with
    | some digits => ⟨digits, (index + 1 : Int) - 324⟩
    | none => x.searchGrid index

/-- The shortest decimal that rounds to the absolute value of a finite number. The search starts at a
power of ten above the interval: a unit is less than `10 ^ -323`, and a binary place is worth less than
`0.30103` decimal ones. -/
def shortest (x : Binary64) : Decimal :=
  if x.units = 0 then ⟨0, 0⟩
  else x.searchGrid ((x.units.log2 + 2) * 30103 / 100000 + 2)

/-- The shortest decimal with all its places, as a message shows a number. -/
def positional (x : Binary64) : List Char :=
  if x.isNaN then ['N', 'a', 'N']
  else
    let digits := if x.isFinite then x.shortest.positional else ['i', 'n', 'f']
    if x.negative then '-' :: digits else digits

end Binary64

end FilterQuery
