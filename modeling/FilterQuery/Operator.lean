/-!
# Operators of filter expressions

An operator is written as a token. The six comparisons form a type of their own, since they alone can be
mirrored: a comparison with the field on the right means the mirrored comparison with the field on the
left. The four that order values share the type `Bound` with the range clauses they compile to.
-/

namespace FilterQuery

/-- A bound on the value of a field. -/
inductive Bound where
  | lt
  | gt
  | lte
  | gte
deriving DecidableEq

namespace Bound

/-- The name of the bound in a range clause. -/
def key : Bound → String
  | .lt => "lt"
  | .gt => "gt"
  | .lte => "lte"
  | .gte => "gte"

/-- The token of the comparison with this bound. -/
def symbol : Bound → String
  | .lt => "<"
  | .gt => ">"
  | .lte => "<="
  | .gte => ">="

/-- The bound that holds of the operands in the other order. -/
def mirror : Bound → Bound
  | .lt => .gt
  | .gt => .lt
  | .lte => .gte
  | .gte => .lte

end Bound

/-- A comparison of a field with a value. -/
inductive Comparison where
  | equal
  | notEqual
  | within (bound : Bound)
deriving DecidableEq

namespace Comparison

/-- The token of the comparison. -/
def symbol : Comparison → String
  | .equal => "=="
  | .notEqual => "!="
  | .within bound => bound.symbol

/-- The comparison that holds of the operands in the other order. -/
def mirror : Comparison → Comparison
  | .equal => .equal
  | .notEqual => .notEqual
  | .within bound => .within bound.mirror

end Comparison

/-- An operator with two operands. -/
inductive BinaryOperator where
  | and
  | or
  | compare (comparison : Comparison)
  /-- A wildcard match, where a star stands for any text and a question mark for any character. -/
  | like
  | unlike
  | among
deriving DecidableEq

namespace BinaryOperator

/-- The token of the operator. -/
def symbol : BinaryOperator → String
  | .and => "AND"
  | .or => "OR"
  | .compare comparison => comparison.symbol
  | .like => "=~"
  | .unlike => "!~"
  | .among => "in"

/-- The operator with the given token, letter case included. -/
def ofToken? (token : String) : Option BinaryOperator :=
  match token with
  | "AND" => some .and
  | "OR" => some .or
  | "==" => some (.compare .equal)
  | "!=" => some (.compare .notEqual)
  | "<" => some (.compare (.within .lt))
  | ">" => some (.compare (.within .gt))
  | "<=" => some (.compare (.within .lte))
  | ">=" => some (.compare (.within .gte))
  | "=~" => some .like
  | "!~" => some .unlike
  | "in" => some .among
  | _ => none

/-- The operator for the operands in the other order, which only a comparison has. -/
def mirror? : BinaryOperator → Option BinaryOperator
  | .compare comparison => some (.compare comparison.mirror)
  | _ => none

/-- The bound that the operator puts on a field, if it orders values. -/
def bound? : BinaryOperator → Option Bound
  | .compare (.within bound) => some bound
  | _ => none

@[simp] theorem bound?_within (bound : Bound) : (compare (.within bound)).bound? = some bound := rfl

/-- Reading the token of an operator gives the operator back. -/
theorem ofToken?_symbol (op : BinaryOperator) : ofToken? op.symbol = some op := by
  rcases op with _ | _ | (_ | _ | (_ | _ | _ | _)) | _ | _ | _ <;> rfl

end BinaryOperator

/-- An operator with one operand. -/
inductive UnaryOperator where
  | not
deriving DecidableEq

namespace UnaryOperator

/-- The token of the operator. -/
def symbol : UnaryOperator → String
  | .not => "NOT"

/-- The operator with the given token. -/
def ofToken? (token : String) : Option UnaryOperator :=
  if token = "NOT" then some .not else none

end UnaryOperator

end FilterQuery
