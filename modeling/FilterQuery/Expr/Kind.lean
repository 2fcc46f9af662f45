import FilterQuery.Expr

/-!
# Kinds of expressions

Each kind of expression has a tag, by which a document names it, and fields in a fixed order.
-/

namespace FilterQuery

namespace Expr

/-- A kind of expression. -/
inductive Kind where
  | null
  | boolean
  | number
  | string
  | moment
  | duration
  | filter
  | array
  | unary
  | field
  | member
  | binary
  | term
  | fulltext
deriving DecidableEq

namespace Kind

/-- All kinds in their order, which numbers them from zero. -/
def all : List Kind :=
  [.null, .boolean, .number, .string, .moment, .duration, .filter, .array, .unary, .field, .member,
    .binary, .term, .fulltext]

/-- The name of the kind in a document. -/
def tag : Kind → String
  | .null => "NullLiteral"
  | .boolean => "BooleanLiteral"
  | .number => "NumberLiteral"
  | .string => "StringLiteral"
  | .moment => "MomentLiteral"
  | .duration => "DurationLiteral"
  | .filter => "FilterLiteral"
  | .array => "ArrayLiteral"
  | .unary => "UnaryExpression"
  | .field => "Field"
  | .member => "MemberExpression"
  | .binary => "BinaryExpression"
  | .term => "ExpressionFilterTerm"
  | .fulltext => "FulltextFilterTerm"

/-- The kind with the given name. -/
def ofTag? (tag : String) : Option Kind :=
  all.find? fun kind => kind.tag == tag

/-- The number of fields of an expression of the kind. -/
def arity : Kind → Nat
  | .null => 0
  | .unary => 2
  | .member => 2
  | .binary => 3
  | _ => 1

end Kind

/-- The kind of an expression. -/
def kind : Expr → Kind
  | .null => .null
  | .boolean _ => .boolean
  | .number _ => .number
  | .string _ => .string
  | .moment _ => .moment
  | .duration _ => .duration
  | .filter _ => .filter
  | .array _ => .array
  | .unary _ _ => .unary
  | .field _ => .field
  | .member _ _ => .member
  | .binary _ _ _ => .binary
  | .term _ => .term
  | .fulltext _ => .fulltext

end Expr

end FilterQuery
