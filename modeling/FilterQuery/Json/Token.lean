import FilterQuery.Json

/-!
# Tokens of a JSON text

A text is cut into tokens by a `Lexer`, and a document is built from the tokens one by one. The builder
keeps the containers around the value that it is working on, innermost first, so it needs no more than
one step for a token however deep the document is, and the depth is the length of that list.

The strict and the lenient form of JSON have lexers of their own and share the builder; a `Dialect` says
what else differs.
-/

namespace FilterQuery

namespace Json

/-- A token of a JSON text. -/
inductive Token where
  | openArray
  | closeArray
  | openObject
  | closeObject
  | comma
  | colon
  /-- A quoted text, which is a value or a key. -/
  | text (value : String)
  /-- A bare word, which is a key, with the value that it stands for, if it stands for one. -/
  | word (key : String) (value? : Option Json)
  /-- A value that cannot be a key. -/
  | scalar (value : Json)

/-- A way to cut a text into tokens. -/
structure Lexer where
  /-- The lexeme that starts with the first character of a nonempty text, and the rest. A lexeme
  without a token is a blank or a comment. -/
  next : Char → List Char → Option (Option Token × List Char)
  /-- The rest is no longer than the text after its first character. -/
  length_rest : ∀ {c cs token? rest}, next c cs = some (token?, rest) → rest.length ≤ cs.length

/-- The tokens of a text. -/
def Lexer.tokens (lexer : Lexer) : List Char → Option (List Token)
  | [] => some []
  | c :: cs =>
    match h : lexer.next c cs with
    | none => none
    | some (token?, rest) =>
      have := lexer.length_rest h
      (lexer.tokens rest).map (token?.toList ++ ·)
termination_by text => text.length
decreasing_by exact Nat.lt_succ_of_le this

/-- What the two forms of JSON disagree on, once the text is cut into tokens. -/
structure Dialect where
  /-- Whether a comma may stand before the end of an array or object. -/
  trailingComma : Bool
  /-- The number of arrays and objects that may be nested in each other, if there is a limit. -/
  depth? : Option Nat

/-- A container around the value that is being read. -/
inductive Context where
  /-- An array, with the items before the value, the last one first. -/
  | item (before : List Json)
  /-- An object, with the members before the value, and the key of the value. -/
  | member (before : List (String × Json)) (key : String)

/-- What the builder stands at. -/
inductive Focus where
  /-- A value is to come. -/
  | value
  /-- An item is to come, or the end of the array. -/
  | itemOrClose
  /-- A key is to come. -/
  | key (before : List (String × Json))
  /-- A key is to come, or the end of the object. -/
  | keyOrClose (before : List (String × Json))
  /-- The colon after a key is to come. -/
  | colon (before : List (String × Json)) (key : String)
  /-- A value is complete. -/
  | complete (value : Json)

/-- A document that is partly read. -/
structure Builder where
  contexts : List Context
  focus : Focus

namespace Builder

/-- Nothing is read. -/
def start : Builder :=
  ⟨[], .value⟩

/-- A value starts with the given token. -/
def stepValue (dialect : Dialect) (contexts : List Context) : Token → Option Builder
  | .text value => some ⟨contexts, .complete (.string value)⟩
  | .scalar value => some ⟨contexts, .complete value⟩
  | .word _ value? => value?.map fun value => ⟨contexts, .complete value⟩
  | .openArray =>
    if dialect.depth?.all (contexts.length < ·) then some ⟨.item [] :: contexts, .itemOrClose⟩
    else none
  | .openObject =>
    if dialect.depth?.all (contexts.length < ·) then some ⟨contexts, .keyOrClose []⟩ else none
  | _ => none

/-- A key is the given token. -/
def stepKey (contexts : List Context) (before : List (String × Json)) : Token → Option Builder
  | .text key => some ⟨contexts, .colon before key⟩
  | .word key _ => some ⟨contexts, .colon before key⟩
  | _ => none

/-- The given token follows a complete value. -/
def stepAfter (dialect : Dialect) (value : Json) : List Context → Token → Option Builder
  | .item before :: contexts, .comma =>
    some ⟨.item (value :: before) :: contexts, if dialect.trailingComma then .itemOrClose else .value⟩
  | .item before :: contexts, .closeArray =>
    some ⟨contexts, .complete (.array (value :: before).reverse)⟩
  | .member before key :: contexts, .comma =>
    let members := insertMember key value before
    some ⟨contexts, if dialect.trailingComma then .keyOrClose members else .key members⟩
  | .member before key :: contexts, .closeObject =>
    some ⟨contexts, .complete (.object (insertMember key value before))⟩
  | _, _ => none

/-- The builder after one more token. -/
def step (dialect : Dialect) (builder : Builder) (token : Token) : Option Builder :=
  match builder.focus with
  | .value => stepValue dialect builder.contexts token
  | .itemOrClose =>
    match builder.contexts, token with
    | .item before :: contexts, .closeArray => some ⟨contexts, .complete (.array before.reverse)⟩
    | contexts, token => stepValue dialect contexts token
  | .key before => stepKey builder.contexts before token
  | .keyOrClose before =>
    match token with
    | .closeObject => some ⟨builder.contexts, .complete (.object before)⟩
    | token => stepKey builder.contexts before token
  | .colon before key =>
    match token with
    | .colon => some ⟨.member before key :: builder.contexts, .value⟩
    | _ => none
  | .complete value => stepAfter dialect value builder.contexts token

/-- The builder after a list of tokens. -/
def run (dialect : Dialect) (builder : Builder) : List Token → Option Builder
  | [] => some builder
  | token :: rest => (builder.step dialect token).bind fun next => next.run dialect rest

/-- The document, if it is read to its end. -/
def result? : Builder → Option Json
  | ⟨[], .complete value⟩ => some value
  | _ => none

end Builder

/-- The document of a text, cut by a lexer and built by a dialect's rules. -/
def readWith (lexer : Lexer) (dialect : Dialect) (text : List Char) : Option Json := do
  let tokens ← lexer.tokens text
  let builder ← Builder.start.run dialect tokens
  builder.result?

end Json

end FilterQuery
