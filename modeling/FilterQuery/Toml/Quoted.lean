import FilterQuery.Json.Escape

/-!
# TOML texts in quotes

A text stands between single or double quotes, once or three times. Only between double quotes are there
escapes, and only between three quotes are there line breaks. One small machine reads all four forms.
-/

namespace FilterQuery

namespace Toml

/-- A form of quoted text. -/
structure QuoteForm where
  quote : Char
  /-- Whether the quote is written three times, so that line breaks may stand in the text. -/
  tripled : Bool

/-- Whether backslashes are escapes. -/
def QuoteForm.escapes (form : QuoteForm) : Bool :=
  form.quote == '"'

/-- Where the machine stands in a text. -/
inductive QuoteState where
  | plain
  /-- After a backslash. -/
  | escape
  /-- In an escape by number, with the digits that are missing and the number so far. -/
  | number (missing : Nat) (value : Nat)
  /-- In the blanks after a backslash at the end of a line, which are left out up to the next
  character; whether the line break is seen. -/
  | lineEnd (seen : Bool)

/-- What the machine does with a character. -/
inductive QuoteAction where
  | emit (chars : List Char) (state : QuoteState)
  /-- The text ends, after as many more characters. -/
  | close (more : Nat)
  | fail

/-- The character that an escape with one letter stands for. -/
def escaped? (c : Char) : Option Char :=
  match c with
  | '"' => some '"'
  | '\\' => some '\\'
  | 'b' => some '\x08'
  | 't' => some '\t'
  | 'n' => some '\n'
  | 'f' => some '\x0c'
  | 'r' => some '\r'
  | 'e' => some '\x1b'
  | _ => none

/-- Whether a character may stand for itself. -/
def isPlain (c : Char) : Bool :=
  c == '\t' || (0x20 ≤ c.toNat && c != '\x7f')

/-- A character outside escapes. Of a run of quotes in a tripled form the last three close the text, and
at most two stand before them. -/
def plainAction (form : QuoteForm) (c : Char) (rest : List Char) : QuoteAction :=
  if c = form.quote then
    if form.tripled then
      match (rest.takeWhile (· == form.quote)).length with
      | 0 | 1 | 3 | 4 => .emit [c] .plain
      | 2 => .close 2
      | _ => .fail
    else .close 0
  else if c = '\\' && form.escapes then .emit [] .escape
  else if isPlain c then .emit [c] .plain
  else if form.tripled && (c = '\n' || (c = '\r' && rest.head? = some '\n')) then .emit [c] .plain
  else .fail

/-- The character right after a backslash. -/
def escapeAction (form : QuoteForm) (c : Char) : QuoteAction :=
  match c with
  | 'x' => .emit [] (.number 2 0)
  | 'u' => .emit [] (.number 4 0)
  | 'U' => .emit [] (.number 8 0)
  | c =>
    match escaped? c with
    | some e => .emit [e] .plain
    | none =>
      if form.tripled && (c = ' ' || c = '\t' || c = '\r') then .emit [] (.lineEnd false)
      else if form.tripled && c = '\n' then .emit [] (.lineEnd true)
      else .fail

/-- A digit of an escape by number, which has to be the number of a character. -/
def numberAction (missing value : Nat) (c : Char) : QuoteAction :=
  match Json.hexValue? c with
  | none => .fail
  | some digit =>
    let value := 16 * value + digit
    if 1 < missing then .emit [] (.number (missing - 1) value)
    else if value.isValidChar then .emit [Char.ofNat value] .plain
    else .fail

/-- What the machine does with a character, given the characters after it. -/
def quoteAction (form : QuoteForm) (c : Char) (rest : List Char) : QuoteState → QuoteAction
  | .plain => plainAction form c rest
  | .escape => escapeAction form c
  | .number missing value => numberAction missing value c
  | .lineEnd seen =>
    if c = '\n' then .emit [] (.lineEnd true)
    else if c = ' ' || c = '\t' || c = '\r' then .emit [] (.lineEnd seen)
    else if seen then plainAction form c rest
    else .fail

/-- The characters of a text up to its end, after those read so far, the last one first, and the
rest. -/
def readQuotedFrom (form : QuoteForm) (state : QuoteState) (sofar : List Char) :
    List Char → Option (List Char × List Char)
  | [] => none
  | c :: rest =>
    match quoteAction form c rest state with
    | .emit chars next => readQuotedFrom form next (chars.reverse ++ sofar) rest
    | .close more => some (sofar.reverse, rest.drop more)
    | .fail => none

/-- A text after its opening quotes, and the rest. A line break right after three quotes is left out. -/
def readQuoted (form : QuoteForm) (text : List Char) : Option (String × List Char) :=
  let body :=
    match form.tripled, text with
    | true, '\n' :: rest => rest
    | true, '\r' :: '\n' :: rest => rest
    | _, text => text
  (readQuotedFrom form .plain [] body).map fun (chars, rest) => (String.ofList chars, rest)

end Toml

end FilterQuery
