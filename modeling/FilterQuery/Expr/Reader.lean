import FilterQuery.Duration.Reader
import FilterQuery.Expr.Kind
import FilterQuery.Json.Lenient
import FilterQuery.Moment.Reader
import FilterQuery.Text.Quoted

/-!
# Reading expressions

An expression is read from a JSON document. A node of the tree is an object with a tag and the fields of
its kind, where other members are passed over, or an array of the tag and the fields in their order.
Inside the tree the tag may also be the number of the kind.

Of several faults the first one met is reported. In an object the fields are met in the order of their
names, and a missing field only after all that are there; in an array they are met in their order.
-/

namespace FilterQuery

namespace Expr

/-- A JSON value as a message describes it. -/
inductive Shape where
  | null
  | bool (value : Bool)
  | int (value : Int)
  | float (value : Binary64)
  | string (value : String)
  | sequence
  | map
deriving DecidableEq

/-- The shape of a JSON value. -/
def shapeOf : Json → Shape
  | .null => .null
  | .bool b => .bool b
  | .number (.int i) => .int i
  | .number (.float x) => .float x
  | .string s => .string s
  | .array _ => .sequence
  | .object _ => .map

/-- The wording of a shape. -/
def Shape.text : Shape → String
  | .null => "null"
  | .bool b => "boolean `" ++ (if b then "true" else "false") ++ "`"
  | .int i => "integer `" ++ String.ofList (Decimal.integerText i) ++ "`"
  | .float x => "floating point `" ++ String.ofList (Number.floatText x) ++ "`"
  | .string s => "string " ++ Text.quote s
  | .sequence => "sequence"
  | .map => "map"

/-- What a reader asks for. -/
inductive Expected where
  | node
  | tag
  | boolean
  | number
  | string
  | moment
  | duration
  | sequence
deriving DecidableEq

/-- The wording of what a reader asks for. -/
def Expected.text : Expected → String
  | .node => "internally tagged enum Node"
  | .tag => "variant identifier"
  | .boolean => "a boolean"
  | .number => "a JSON number"
  | .string => "a string"
  | .moment => "an RFC 3339 formatted date and time string"
  | .duration => "a duration in seconds or as an ISO 8601 / clock string"
  | .sequence => "a sequence"

/-- Why a JSON document is no expression. -/
inductive NodeError where
  | wrongShape (found : Shape) (expected : Expected)
  | missingField (name : String)
  | unknownTag (tag : String)
  | unknownIndex (index : Nat)
  /-- An array has fewer values than its kind has fields. -/
  | tooFewFields (found : Nat) (kind : Kind)
  /-- An array has more values than its kind has fields. -/
  | tooManyFields (found : Nat) (kind : Kind)
  | moment (cause : MomentError)
  | duration (cause : DurationError)
deriving DecidableEq

/-- A number of elements in words. -/
def elementCount (n : Nat) : String :=
  String.ofList (Decimal.digitsOf n) ++ (if n = 1 then " element" else " elements")

/-- The wording of a node error. -/
def NodeError.message : NodeError → String
  | .wrongShape found expected => "invalid type: " ++ found.text ++ ", expected " ++ expected.text
  | .missingField name => "missing field `" ++ name ++ "`"
  | .unknownTag tag =>
    "unknown variant `" ++ tag ++ "`, expected one of " ++
      ", ".intercalate (Kind.all.map fun kind => "`" ++ kind.tag ++ "`")
  | .unknownIndex index =>
    "invalid value: integer `" ++ String.ofList (Decimal.digitsOf index) ++
      "`, expected variant index 0 <= i < 14"
  | .tooFewFields found kind =>
    "invalid length " ++ String.ofList (Decimal.digitsOf found) ++
      ", expected struct variant Node::" ++ kind.tag ++ " with " ++ elementCount kind.arity
  | .tooManyFields found kind =>
    "invalid length " ++ String.ofList (Decimal.digitsOf found) ++ ", expected " ++
      elementCount kind.arity ++ " in sequence"
  | .moment cause => cause.message
  | .duration cause => cause.message

/-- The result of reading a part of a document. -/
abbrev Reading (α : Type) := Except NodeError α

/-! ## Parts that are no nodes -/

def readBoolean : Json → Reading Bool
  | .bool b => .ok b
  | json => .error (.wrongShape (shapeOf json) .boolean)

def readNumber : Json → Reading Number
  | .number n => .ok n
  | json => .error (.wrongShape (shapeOf json) .number)

def readString : Json → Reading String
  | .string s => .ok s
  | json => .error (.wrongShape (shapeOf json) .string)

def readMoment : Json → Reading Moment
  | .string s => (Moment.parse s).mapError .moment
  | json => .error (.wrongShape (shapeOf json) .moment)

/-- A duration is written as a number of seconds or as a text. -/
def readDuration : Json → Reading Duration
  | .string s => (Duration.parse s).mapError .duration
  | .number (.int i) => (Duration.ofSeconds (Binary64.ofInt i)).mapError .duration
  | .number (.float x) => (Duration.ofSeconds x).mapError .duration
  | json => .error (.wrongShape (shapeOf json) .duration)

/-- The kind that a tag names. Only a nested node may be tagged by a number. -/
def readKind (nested : Bool) : Json → Reading Kind
  | .string tag =>
    match Kind.ofTag? tag with
    | some kind => .ok kind
    | none => .error (.unknownTag tag)
  | .number (.int (.ofNat index)) =>
    if nested then
      match Kind.all[index]? with
      | some kind => .ok kind
      | none => .error (.unknownIndex index)
    else .error (.wrongShape (.int index) .tag)
  | json => .error (.wrongShape (shapeOf json) .tag)

/-! ## Fields -/

/-- The value of a member, read if it is there. -/
def member? {α : Type} (read : Json → Reading α) (name : String) (members : List (String × Json)) :
    Reading (Option α) :=
  match members.lookup name with
  | some value => (read value).map some
  | none => .ok none

/-- A field that has to be there. -/
def present {α : Type} (name : String) : Option α → Reading α
  | some value => .ok value
  | none => .error (.missingField name)

/-- The only field of a kind, from an object. -/
def onlyMember {α : Type} (read : Json → Reading α) (name : String)
    (members : List (String × Json)) : Reading α := do
  present name (← member? read name members)

/-- The only field of a kind, from an array. -/
def onlyItem {α : Type} (read : Json → Reading α) (kind : Kind) : List Json → Reading α
  | [] => .error (.tooFewFields 0 kind)
  | value :: rest => do
    let field ← read value
    if rest.isEmpty then return field else throw (.tooManyFields (rest.length + 1) kind)

/-! ## Nodes -/

mutual

/-- The expression of a node. -/
def ofJson (nested : Bool) : Json → Reading Expr
  | .object members => do
    let tag ← present "type" (members.lookup "type")
    match ← readKind nested tag with
    | .null => return .null
    | .boolean => return .boolean (← onlyMember readBoolean "value" members)
    | .number => return .number (← onlyMember readNumber "value" members)
    | .string => return .string (← onlyMember readString "value" members)
    | .moment => return .moment (← onlyMember readMoment "value" members)
    | .duration => return .duration (← onlyMember readDuration "value" members)
    | .filter => return .filter (← present "ast" (← memberNode "ast" members))
    | .array => return .array (← present "elements" (← memberNodes "elements" members))
    | .unary =>
      let argument? ← memberNode "argument" members
      let operator? ← member? readString "operator" members
      return .unary (← present "operator" operator?) (← present "argument" argument?)
    | .field => return .field (← onlyMember readString "name" members)
    | .member =>
      let object? ← memberNode "object" members
      let property? ← memberNode "property" members
      return .member (← present "object" object?) (← present "property" property?)
    | .binary =>
      let left? ← memberNode "left" members
      let operator? ← member? readString "operator" members
      let right? ← memberNode "right" members
      return .binary (← present "operator" operator?) (← present "left" left?)
        (← present "right" right?)
    | .term => return .term (← present "expression" (← memberNode "expression" members))
    | .fulltext => return .fulltext (← onlyMember readString "text" members)
  | .array [] => .error (.missingField "type")
  | .array (tag :: values) => do
    match ← readKind nested tag with
    | .null => if values.isEmpty then return .null else throw (.tooManyFields values.length .null)
    | .boolean => return .boolean (← onlyItem readBoolean .boolean values)
    | .number => return .number (← onlyItem readNumber .number values)
    | .string => return .string (← onlyItem readString .string values)
    | .moment => return .moment (← onlyItem readMoment .moment values)
    | .duration => return .duration (← onlyItem readDuration .duration values)
    | .filter =>
      match values with
      | [] => throw (.tooFewFields 0 .filter)
      | value :: rest =>
        let ast ← ofJson true value
        if rest.isEmpty then return .filter ast else throw (.tooManyFields (rest.length + 1) .filter)
    | .array =>
      match values with
      | [] => throw (.tooFewFields 0 .array)
      | value :: rest =>
        let elements ← nodesOf value
        if rest.isEmpty then return .array elements
        else throw (.tooManyFields (rest.length + 1) .array)
    | .unary =>
      match values with
      | [] => throw (.tooFewFields 0 .unary)
      | operator :: rest =>
        let operator ← readString operator
        match rest with
        | [] => throw (.tooFewFields 1 .unary)
        | argument :: rest =>
          let argument ← ofJson true argument
          if rest.isEmpty then return .unary operator argument
          else throw (.tooManyFields (rest.length + 2) .unary)
    | .field => return .field (← onlyItem readString .field values)
    | .member =>
      match values with
      | [] => throw (.tooFewFields 0 .member)
      | object :: rest =>
        let object ← ofJson true object
        match rest with
        | [] => throw (.tooFewFields 1 .member)
        | property :: rest =>
          let property ← ofJson true property
          if rest.isEmpty then return .member object property
          else throw (.tooManyFields (rest.length + 2) .member)
    | .binary =>
      match values with
      | [] => throw (.tooFewFields 0 .binary)
      | operator :: rest =>
        let operator ← readString operator
        match rest with
        | [] => throw (.tooFewFields 1 .binary)
        | left :: rest =>
          let left ← ofJson true left
          match rest with
          | [] => throw (.tooFewFields 2 .binary)
          | right :: rest =>
            let right ← ofJson true right
            if rest.isEmpty then return .binary operator left right
            else throw (.tooManyFields (rest.length + 3) .binary)
    | .term =>
      match values with
      | [] => throw (.tooFewFields 0 .term)
      | value :: rest =>
        let expression ← ofJson true value
        if rest.isEmpty then return .term expression
        else throw (.tooManyFields (rest.length + 1) .term)
    | .fulltext => return .fulltext (← onlyItem readString .fulltext values)
  | json => .error (.wrongShape (shapeOf json) .node)

/-- The expression of a member, if it is there. -/
def memberNode (name : String) : List (String × Json) → Reading (Option Expr)
  | [] => .ok none
  | (key, value) :: rest =>
    if key = name then (ofJson true value).map some else memberNode name rest

/-- The expressions of a member that is a sequence, if it is there. -/
def memberNodes (name : String) : List (String × Json) → Reading (Option (List Expr))
  | [] => .ok none
  | (key, value) :: rest =>
    if key = name then (nodesOf value).map some else memberNodes name rest

/-- The expressions of a sequence. -/
def nodesOf : Json → Reading (List Expr)
  | .array items => itemNodes items
  | json => .error (.wrongShape (shapeOf json) .sequence)

/-- The expressions of a list of values. -/
def itemNodes : List Json → Reading (List Expr)
  | [] => .ok []
  | item :: rest => do return (← ofJson true item) :: (← itemNodes rest)

end

/-- Why a text is no expression. -/
inductive ReadError where
  /-- The text is no JSON document. -/
  | malformed
  /-- The document is no expression. -/
  | unsupported (cause : NodeError)
deriving DecidableEq

/-- The wording of a read error. -/
def ReadError.message : ReadError → String
  | .malformed => "Invalid AST document: not a JSON text"
  | .unsupported cause => "Unsupported filter node: " ++ cause.message

/-- The expression of a text. -/
def read (text : String) : Except ReadError Expr :=
  match Json.read text with
  | none => .error .malformed
  | some document => (ofJson false document).mapError .unsupported

end Expr

end FilterQuery
