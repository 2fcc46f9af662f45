import FilterQuery.Duration
import FilterQuery.Moment
import FilterQuery.Number

/-!
# Filter expressions

The tree of a filter expression. Operators are kept as their tokens: a tree may hold a token that no
operator has, and the compiler reports it.
-/

namespace FilterQuery

/-- A filter expression. -/
inductive Expr where
  | null
  | boolean (value : Bool)
  | number (value : Number)
  | string (value : String)
  | moment (value : Moment)
  | duration (value : Duration)
  /-- A wrapped expression, without a meaning of its own. -/
  | filter (ast : Expr)
  | array (elements : List Expr)
  | unary (operator : String) (argument : Expr)
  | field (name : String)
  /-- A path of two parts. -/
  | member (object property : Expr)
  | binary (operator : String) (left right : Expr)
  /-- An expression as a term of a filter, without a meaning of its own. -/
  | term (expression : Expr)
  /-- A search for a phrase in all fields. -/
  | fulltext (text : String)
deriving Inhabited

namespace Expr

/-- Whether the expression is a field or a path by its form. -/
def isFieldReference : Expr → Bool
  | .field _ => true
  | .member _ _ => true
  | _ => false

/-- The negation of a filter. -/
def negate (argument : Expr) : Expr :=
  .unary "NOT" argument

/-- Both of two filters. -/
def both (left right : Expr) : Expr :=
  .binary "AND" left right

/-- One of two filters. -/
def either (left right : Expr) : Expr :=
  .binary "OR" left right

mutual

/-- Whether two expressions are the same tree. -/
def same : Expr → Expr → Bool
  | .null, .null => true
  | .boolean a, .boolean b => a == b
  | .number a, .number b => a == b
  | .string a, .string b => a == b
  | .moment a, .moment b => a == b
  | .duration a, .duration b => a == b
  | .filter a, .filter b => a.same b
  | .array a, .array b => sameList a b
  | .unary op a, .unary op' a' => op == op' && a.same a'
  | .field a, .field b => a == b
  | .member a b, .member a' b' => a.same a' && b.same b'
  | .binary op a b, .binary op' a' b' => op == op' && a.same a' && b.same b'
  | .term a, .term b => a.same b
  | .fulltext a, .fulltext b => a == b
  | _, _ => false

/-- Whether two lists hold the same trees. -/
def sameList : List Expr → List Expr → Bool
  | [], [] => true
  | a :: as, b :: bs => a.same b && sameList as bs
  | _, _ => false

end

end Expr

end FilterQuery
