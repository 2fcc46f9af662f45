import FilterQuery.Expr.Kind
import FilterQuery.Json.Writer

/-!
# Expressions as documents

The document of an expression is an object with its tag first and then its fields in their order.
-/

namespace FilterQuery

namespace Expr

/-- An object with the tag of a kind and the given fields. -/
def tagged (kind : Kind) (fields : List (String × Json)) : Json :=
  .object (("type", .string kind.tag) :: fields)

mutual

/-- The document of an expression. -/
def toJson : Expr → Json
  | .null => tagged .null []
  | .boolean value => tagged .boolean [("value", .bool value)]
  | .number value => tagged .number [("value", .number value)]
  | .string value => tagged .string [("value", .string value)]
  | .moment value => tagged .moment [("value", .string value.exactText)]
  | .duration value => tagged .duration [("value", .string value.canonical)]
  | .filter ast => tagged .filter [("ast", ast.toJson)]
  | .array elements => tagged .array [("elements", .array (listToJson elements))]
  | .unary operator argument =>
    tagged .unary [("operator", .string operator), ("argument", argument.toJson)]
  | .field name => tagged .field [("name", .string name)]
  | .member object property =>
    tagged .member [("object", object.toJson), ("property", property.toJson)]
  | .binary operator left right =>
    tagged .binary [("operator", .string operator), ("left", left.toJson), ("right", right.toJson)]
  | .term expression => tagged .term [("expression", expression.toJson)]
  | .fulltext text => tagged .fulltext [("text", .string text)]

/-- The documents of a list of expressions. -/
def listToJson : List Expr → List Json
  | [] => []
  | element :: rest => element.toJson :: listToJson rest

end

/-- The text of an expression: its document in one line. -/
def text (e : Expr) : String :=
  e.toJson.compact

end Expr

end FilterQuery
