/-!
# Signed words

The operations of signed 64-bit words wrap around. A checked operation keeps what the word operation
gives only if nothing was lost on the way.
-/

namespace FilterQuery

namespace Word

/-- The word that was computed in the place of an integer, if it has kept that integer. -/
def ifExact (word : Int64) (i : Int) : Option Int64 :=
  if word.toInt = i then some word else none

/-- The word of an integer, if it fits one. -/
def ofInt? (i : Int) : Option Int64 :=
  ifExact (Int64.ofInt i) i

/-- The sum of two words, if it fits one. -/
def checkedAdd (a b : Int64) : Option Int64 :=
  ifExact (a + b) (a.toInt + b.toInt)

/-- The product of two words, if it fits one. -/
def checkedMul (a b : Int64) : Option Int64 :=
  ifExact (a * b) (a.toInt * b.toInt)

end Word

end FilterQuery
