import FilterQuery.Decimal.Shortest

/-!
# Numbers of a document

A number in a document is an integer or a floating point number; the two are kept apart, since `1` and
`1.0` are written differently.
-/

namespace FilterQuery

/-- A number of a document. -/
inductive Number where
  | int (value : Int)
  | float (value : Binary64)
deriving DecidableEq

namespace Number

/-- A floating point number in a document: its shortest decimal, always with a point or an exponent. The
places are all written while the leading digit has an exponent from -5 to 15. A document has no form for a
number that is not finite, which is written as null. -/
def floatText (x : Binary64) : List Char :=
  if x.isFinite then
    let d := x.shortest
    let text :=
      if -5 ≤ d.exponent ∧ d.exponent ≤ 15 then
        if 0 ≤ d.power then d.positional ++ ['.', '0'] else d.positional
      else d.scientific
    if x.negative then '-' :: text else text
  else ['n', 'u', 'l', 'l']

/-- The text of a number in a document. -/
def text : Number → List Char
  | .int i => Decimal.integerText i
  | .float x => floatText x

end Number

end FilterQuery
