import FilterQuery.Operator

/-!
# Compile errors

Why an expression is no filter, each cause with the operator or the place that shows it.
-/

namespace FilterQuery

/-- A place in an expression where a filter is required. -/
inductive FilterPlace where
  | root
  | operandOfNot
  | operandOfAnd
  | operandOfOr
deriving DecidableEq

/-- The wording of a place for a filter. -/
def FilterPlace.text : FilterPlace → String
  | .root => "the top-level node"
  | .operandOfNot => "the \"" ++ UnaryOperator.not.symbol ++ "\" operator"
  | .operandOfAnd => "the \"" ++ BinaryOperator.and.symbol ++ "\" operator"
  | .operandOfOr => "the \"" ++ BinaryOperator.or.symbol ++ "\" operator"

/-- A place in an expression where a value is required. -/
inductive ValuePlace where
  | operandOf (operator : BinaryOperator)
  | memberPart
  | arrayElement
deriving DecidableEq

/-- The wording of a place for a value. -/
def ValuePlace.text : ValuePlace → String
  | .operandOf operator => operator.symbol
  | .memberPart => "member expression"
  | .arrayElement => "array element"

/-- Why an expression does not compile. -/
inductive CompileError where
  /-- No operator has the token, or the operator lacks a mirror or a bound where one is needed. -/
  | invalidOperator (token : String)
  /-- Neither operand of a comparison is a field. -/
  | missingFieldOperand (operator : BinaryOperator)
  /-- The left operand is no field, and the operator cannot be mirrored. -/
  | leftFieldOperand (operator : BinaryOperator)
  /-- A value stands where a filter is required. -/
  | expectedFilter (place : FilterPlace)
  /-- A filter stands where a value is required. -/
  | expectedValue (place : ValuePlace)
  /-- Membership is asked of a value that is no array. -/
  | expectedArray (operator : BinaryOperator)
  /-- A field is compared with an array. -/
  | expectedScalar (comparison : Comparison)
  /-- Null is ordered. -/
  | nullComparison (bound : Bound) (field : String)
  /-- A pattern is no text. -/
  | expectedPattern (operator : BinaryOperator)
deriving DecidableEq

/-- The wording of a compile error. -/
def CompileError.message : CompileError → String
  | .invalidOperator token => "Invalid operator: " ++ token ++ "."
  | .missingFieldOperand operator =>
    "One operand of the \"" ++ operator.symbol ++ "\" must be a field reference."
  | .leftFieldOperand operator =>
    "The left operand of the \"" ++ operator.symbol ++ "\" must be a field reference."
  | .expectedFilter place => "Expected a filter expression for " ++ place.text ++ "."
  | .expectedValue place =>
    "Operand of the \"" ++ place.text ++ "\" must be a value, not a filter expression."
  | .expectedArray operator =>
    "The \"" ++ operator.symbol ++ "\" operator requires an array of values."
  | .expectedScalar comparison =>
    "The \"" ++ comparison.symbol ++ "\" operator cannot compare a field against an array."
  | .nullComparison bound field =>
    "The \"" ++ bound.symbol ++ "\" operator cannot compare field '" ++ field ++ "' against null."
  | .expectedPattern operator =>
    "The \"" ++ operator.symbol ++ "\" operator requires a string wildcard pattern."

end FilterQuery
