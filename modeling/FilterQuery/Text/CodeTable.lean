/-!
# Tables of code points

A property of characters that no formula describes is kept as a table of inclusive ranges of code
points. The tables of this library hold the code points from U+0080 on; the ASCII part of each
property is written out beside the table, where it can be read at a glance.
-/

namespace FilterQuery.Text

/-- Inclusive ranges of code points, in increasing order. -/
abbrev CodeTable := List (Nat × Nat)

/-- Whether a character lies in one of the table's ranges. -/
def CodeTable.contains (table : CodeTable) (c : Char) : Bool :=
  table.any fun range => range.1 ≤ c.toNat && c.toNat ≤ range.2

end FilterQuery.Text
