import FilterQuery.Toml.Quoted
import FilterQuery.Toml.Scalar
import FilterQuery.Toml.Tree

/-!
# Reading TOML

A document is a list of statements, one a line: a header, or a key with its value. Arrays and inline
tables may go over several lines and end with a comma, and are nested up to a depth of eighty.

The functions that read a list of things take a fuel, which bounds how often they go on; `Toml.read` gives
them more than the text has characters.
-/

namespace FilterQuery

namespace Toml

/-- The rest after blanks. -/
def skipBlanks (text : List Char) : List Char :=
  text.dropWhile fun c => c == ' ' || c == '\t'

/-- The rest after a comment up to the end of its line, if there is one. -/
def skipComment : List Char → Option (List Char)
  | '#' :: rest =>
    match rest.dropWhile isPlain with
    | [] => some []
    | '\n' :: after => some ('\n' :: after)
    | '\r' :: '\n' :: after => some ('\r' :: '\n' :: after)
    | _ => none
  | text => some text

/-- The rest after the end of a line; blanks and a comment may stand before it. -/
def endLine (text : List Char) : Option (List Char) := do
  match ← skipComment (skipBlanks text) with
  | [] => some []
  | '\n' :: rest => some rest
  | '\r' :: '\n' :: rest => some rest
  | _ => none

/-- The rest after blanks, comments and line breaks. -/
def skipSpace : Nat → List Char → Option (List Char)
  | 0, _ => none
  | fuel + 1, text =>
    match skipBlanks text with
    | '#' :: rest => do skipSpace fuel (← endLine ('#' :: rest))
    | '\n' :: rest => skipSpace fuel rest
    | '\r' :: '\n' :: rest => skipSpace fuel rest
    | text => some text

/-- Whether the character may stand in a key without quotes. -/
def isBareKey (c : Char) : Bool :=
  c.isAlphanum || c == '_' || c == '-'

/-- One part of a key, and the rest. -/
def readKeyPart : List Char → Option (String × List Char)
  | '"' :: rest => readQuoted ⟨'"', false⟩ rest
  | '\'' :: rest => readQuoted ⟨'\'', false⟩ rest
  | text =>
    match text.takeWhile isBareKey with
    | [] => none
    | key => some (String.ofList key, text.dropWhile isBareKey)

/-- The parts of a key, which points divide, and the rest. -/
def readKey : Nat → List Char → Option (List String × List Char)
  | 0, _ => none
  | fuel + 1, text => do
    let (part, rest) ← readKeyPart (skipBlanks text)
    match skipBlanks rest with
    | '.' :: rest => do
      let (parts, rest) ← readKey fuel rest
      return (part :: parts, rest)
    | rest => return ([part], rest)

/-- Whether the character may stand in a scalar without quotes. -/
def isBareValue (c : Char) : Bool :=
  c.isAlphanum || c == '_' || c == '-' || c == '+' || c == '.' || c == ':'

/-- A scalar without quotes, and the rest. A date and a time may have a blank between them. -/
def readBareValue (text : List Char) : Option (Toml × List Char) := do
  let first := text.takeWhile isBareValue
  let rest := text.dropWhile isBareValue
  let (chars, rest) :=
    match date? first, rest with
    | some (_, []), ' ' :: digit :: more =>
      if digit.isDigit then
        (first ++ ' ' :: (digit :: more).takeWhile isBareValue, (digit :: more).dropWhile isBareValue)
      else (first, rest)
    | _, rest => (first, rest)
  let value ← scalar? chars
  return (value, rest)

/-- The deepest nesting of arrays and inline tables. -/
def maxDepth : Nat := 80

/-- The parts of a key without the last one, and the last one. -/
def splitKey (parts : List String) : List String × String :=
  (parts.dropLast, parts.getLastD "")

mutual

/-- A value, and the rest, inside as many arrays and inline tables. -/
def readValue : Nat → Nat → List Char → Option (Toml × List Char)
  | 0, _, _ => none
  | fuel + 1, depth, text =>
    match text with
    | '"' :: '"' :: '"' :: rest => quoted (readQuoted ⟨'"', true⟩ rest)
    | '"' :: rest => quoted (readQuoted ⟨'"', false⟩ rest)
    | '\'' :: '\'' :: '\'' :: rest => quoted (readQuoted ⟨'\'', true⟩ rest)
    | '\'' :: rest => quoted (readQuoted ⟨'\'', false⟩ rest)
    | '[' :: rest => do
      let (items, rest) ← if depth < maxDepth then readItems fuel (depth + 1) [] rest else none
      return (.array items, rest)
    | '\x7b' :: rest => do
      let (members, rest) ← if depth < maxDepth then readMembers fuel (depth + 1) [] rest else none
      return (.table (Tree.membersToToml members), rest)
    | text => readBareValue text
where
  /-- A quoted text as a value. -/
  quoted (read? : Option (String × List Char)) : Option (Toml × List Char) :=
    read?.map fun (text, rest) => (.string text, rest)

/-- The items of an array after those read so far, the last one first, and the rest. -/
def readItems : Nat → Nat → List Toml → List Char → Option (List Toml × List Char)
  | 0, _, _, _ => none
  | fuel + 1, depth, sofar, text => do
    match ← skipSpace (text.length + 1) text with
    | ']' :: rest => return (sofar.reverse, rest)
    | text =>
      let (item, rest) ← readValue fuel depth text
      match ← skipSpace (rest.length + 1) rest with
      | ',' :: rest => readItems fuel depth (item :: sofar) rest
      | ']' :: rest => return ((item :: sofar).reverse, rest)
      | _ => none

/-- The members of an inline table after those read so far, and the rest. -/
def readMembers : Nat → Nat → Members → List Char → Option (Members × List Char)
  | 0, _, _, _ => none
  | fuel + 1, depth, sofar, text => do
    match ← skipSpace (text.length + 1) text with
    | '\x7d' :: rest => return (sofar, rest)
    | text =>
      let (parts, rest) ← readKey (text.length + 1) text
      match rest with
      | '=' :: rest =>
        let (value, rest) ← readValue fuel depth (skipBlanks rest)
        let (path, key) := splitKey parts
        let (_, members) ← Tree.insertKey path key value .header sofar
        match ← skipSpace (rest.length + 1) rest with
        | ',' :: rest => readMembers fuel depth members rest
        | '\x7d' :: rest => return (members, rest)
        | _ => none
      | _ => none

end

/-- A document that is partly read: its tables, and the path of the last header. -/
structure Document where
  members : Members
  header : List String

/-- The document after one more statement, and the rest. -/
def readStatement (document : Document) (text : List Char) : Option (Document × List Char) :=
  match text with
  | '[' :: '[' :: rest => do
    let (parts, rest) ← readKey (rest.length + 1) rest
    match rest with
    | ']' :: ']' :: rest =>
      let (path, key) := splitKey parts
      let members ← Tree.openTables path key document.members
      return (⟨members, parts⟩, ← endLine rest)
    | _ => none
  | '[' :: rest => do
    let (parts, rest) ← readKey (rest.length + 1) rest
    match rest with
    | ']' :: rest =>
      let (path, key) := splitKey parts
      let members ← Tree.openTable path key document.members
      return (⟨members, parts⟩, ← endLine rest)
    | _ => none
  | text => do
    let (parts, rest) ← readKey (text.length + 1) text
    match rest with
    | '=' :: rest =>
      let (value, rest) ← readValue (rest.length + 1) 0 (skipBlanks rest)
      let (path, key) := splitKey parts
      let members ← Tree.insertUnder document.header path key value document.members
      return (⟨members, document.header⟩, ← endLine rest)
    | _ => none

/-- The document after all statements of a text. -/
def readStatements : Nat → Document → List Char → Option Document
  | 0, _, _ => none
  | fuel + 1, document, text => do
    match ← skipSpace (text.length + 1) text with
    | [] => some document
    | text =>
      let (document, rest) ← readStatement document text
      readStatements fuel document rest

/-- The members of the document of a text. A byte order mark in front is passed over. -/
def read (text : String) : Option (List (String × Toml)) :=
  let chars :=
    match text.toList with
    | c :: rest => if c.toNat = 0xfeff then rest else c :: rest
    | [] => []
  (readStatements (chars.length + 1) ⟨[], []⟩ chars).map fun document =>
    Tree.membersToToml document.members

end Toml

end FilterQuery
