import FilterQuery.Json
import FilterQuery.Text.Quoted

/-!
# Writing JSON

A document is written in one line without blanks, or with one item a line and two blanks of indentation
a level. An empty array or object stays on its line.
-/

namespace FilterQuery

namespace Json

/-- One character of a written text: quotes, backslashes and the controls below U+0020 are escaped, the
five with a short escape by it. -/
def escapeChar (c : Char) : List Char :=
  match c with
  | '"' => ['\\', '"']
  | '\\' => ['\\', '\\']
  | '\x08' => ['\\', 'b']
  | '\x09' => ['\\', 't']
  | '\x0a' => ['\\', 'n']
  | '\x0c' => ['\\', 'f']
  | '\x0d' => ['\\', 'r']
  | c =>
    if c.toNat < 0x20 then
      ['\\', 'u', '0', '0', Nat.digitChar (c.toNat / 16), Nat.digitChar (c.toNat % 16)]
    else [c]

/-- A text between quotes. -/
def stringText (text : String) : List Char :=
  '"' :: (text.toList.flatMap escapeChar ++ ['"'])

/-- The text of a truth value. -/
def boolText (b : Bool) : List Char :=
  if b then ['t', 'r', 'u', 'e'] else ['f', 'a', 'l', 's', 'e']

/-- The text of null. -/
def nullText : List Char :=
  ['n', 'u', 'l', 'l']

mutual

/-- The characters of a document in one line. -/
def compactChars : Json → List Char
  | .null => nullText
  | .bool b => boolText b
  | .number n => n.text
  | .string s => stringText s
  | .array items => '[' :: (compactItems items ++ [']'])
  | .object members => '\x7b' :: (compactMembers members ++ ['\x7d'])

/-- The items of an array, with commas between them. -/
def compactItems : List Json → List Char
  | [] => []
  | [item] => item.compactChars
  | item :: rest => item.compactChars ++ ',' :: compactItems rest

/-- The members of an object, with commas between them. -/
def compactMembers : List (String × Json) → List Char
  | [] => []
  | [(key, value)] => stringText key ++ ':' :: value.compactChars
  | (key, value) :: rest =>
    stringText key ++ ':' :: (value.compactChars ++ ',' :: compactMembers rest)

end

/-- A line break and the indentation of a level. -/
def newLine (level : Nat) : List Char :=
  '\n' :: List.replicate (2 * level) ' '

mutual

/-- The characters of an indented document, at the given level. -/
def prettyChars (level : Nat) : Json → List Char
  | .null => nullText
  | .bool b => boolText b
  | .number n => n.text
  | .string s => stringText s
  | .array [] => ['[', ']']
  | .array (item :: rest) => '[' :: (prettyItems (level + 1) (item :: rest) ++ newLine level ++ [']'])
  | .object [] => ['\x7b', '\x7d']
  | .object (member :: rest) =>
    '\x7b' :: (prettyMembers (level + 1) (member :: rest) ++ newLine level ++ ['\x7d'])

/-- The items of an array, each on a line of its own. -/
def prettyItems (level : Nat) : List Json → List Char
  | [] => []
  | [item] => newLine level ++ prettyChars level item
  | item :: rest => newLine level ++ (prettyChars level item ++ ',' :: prettyItems level rest)

/-- The members of an object, each on a line of its own. -/
def prettyMembers (level : Nat) : List (String × Json) → List Char
  | [] => []
  | [(key, value)] => newLine level ++ (stringText key ++ ':' :: ' ' :: prettyChars level value)
  | (key, value) :: rest =>
    newLine level ++
      (stringText key ++ ':' :: ' ' :: (prettyChars level value ++ ',' :: prettyMembers level rest))

end

/-- The document in one line. -/
def compact (document : Json) : String :=
  String.ofList document.compactChars

/-- The document with one item a line. -/
def pretty (document : Json) : String :=
  String.ofList (document.prettyChars 0)

end Json

end FilterQuery
