/-!
# Splitting texts

A text is split at a separator: paths are split into their parts, and lists of directives into theirs.
-/

namespace FilterQuery.Text

/-- The pieces of a text between a separator. -/
def splitChars (separator : Char) : List Char → List (List Char)
  | [] => [[]]
  | c :: rest =>
    if c = separator then [] :: splitChars separator rest
    else
      match splitChars separator rest with
      | [] => [[c]]
      | piece :: pieces => (c :: piece) :: pieces

end FilterQuery.Text
