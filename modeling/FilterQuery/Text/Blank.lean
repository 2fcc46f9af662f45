import FilterQuery.Text.CodeTable

/-!
# Blank characters

The characters with the Unicode property `White_Space`, and trimming by them. Durations are trimmed
on both sides, a report loses its trailing blanks when it is printed, and moments may have blanks
between their parts.
-/

namespace FilterQuery.Text

/-- The blank characters beyond ASCII. -/
def wideBlanks : CodeTable :=
  [(0x85, 0x85), (0xa0, 0xa0), (0x1680, 0x1680), (0x2000, 0x200a), (0x2028, 0x2029),
    (0x202f, 0x202f), (0x205f, 0x205f), (0x3000, 0x3000)]

/-- Space, the controls U+0009 to U+000D, and the blanks beyond ASCII. -/
def isBlank (c : Char) : Bool :=
  c == ' ' || (0x09 ≤ c.toNat && c.toNat ≤ 0x0d) || wideBlanks.contains c

def trimStart (text : List Char) : List Char :=
  text.dropWhile isBlank

def trimEnd (text : List Char) : List Char :=
  (text.reverse.dropWhile isBlank).reverse

def trim (text : List Char) : List Char :=
  trimEnd (trimStart text)

end FilterQuery.Text
