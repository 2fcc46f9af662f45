/-!
# Terminal styles

A styled text is put between the control sequence of its style and the one that resets the terminal.
-/

namespace FilterQuery

/-- A style of a text on a terminal. -/
inductive Style where
  | bold
  | yellow
  | cyan
deriving DecidableEq

namespace Style

/-- The parameter of the control sequence of a style. -/
def parameter : Style → List Char
  | .bold => ['1']
  | .yellow => ['3', '3']
  | .cyan => ['3', '6']

/-- The control sequence that starts a style. -/
def start (style : Style) : List Char :=
  '\x1b' :: '[' :: style.parameter ++ ['m']

/-- The control sequence that ends all styles. -/
def reset : List Char :=
  ['\x1b', '[', '0', 'm']

/-- The text with the style started again wherever the text itself resets the terminal. -/
def restart (style : Style) : List Char → List Char
  | '\x1b' :: '[' :: '0' :: 'm' :: rest => reset ++ style.start ++ style.restart rest
  | c :: rest => c :: style.restart rest
  | [] => []

/-- The text in a style, if styles are shown. -/
def apply (style : Style) (shown : Bool) (text : String) : String :=
  if shown then String.ofList (style.start ++ style.restart text.toList ++ reset) else text

end Style

end FilterQuery
