import FilterQuery.Json

/-!
# Values

The value that an operand of a filter expression compiles to. Null stands for absence: no document has
a null stored under a field, so a comparison with null asks whether the field is there.
-/

namespace FilterQuery

/-- A value that a field is compared with. -/
inductive Value where
  | null
  | bool (value : Bool)
  | number (value : Number)
  | string (value : String)
  | array (items : List Value)
deriving Inhabited

namespace Value

/-- Whether the value is null. -/
def isNull : Value → Bool
  | .null => true
  | _ => false

mutual

/-- The value as JSON. -/
def toJson : Value → Json
  | .null => .null
  | .bool b => .bool b
  | .number n => .number n
  | .string s => .string s
  | .array items => .array (listToJson items)

/-- The values of a list as JSON. -/
def listToJson : List Value → List Json
  | [] => []
  | item :: rest => item.toJson :: listToJson rest

end

mutual

/-- The text of a value inside a dotted field path: a string stands as it is, and the items of an array
are joined by commas. -/
def text : Value → String
  | .null => "null"
  | .bool b => if b then "true" else "false"
  | .number n => String.ofList n.text
  | .string s => s
  | .array items => listText items

/-- The texts of the values of a list, joined by commas. -/
def listText : List Value → String
  | [] => ""
  | [item] => item.text
  | item :: rest => item.text ++ "," ++ listText rest

end

end Value

end FilterQuery
