import FilterQuery.Clause
import FilterQuery.Compile.Error
import FilterQuery.Expr

/-!
# The walk over an expression

An expression is visited depth first. A literal or a field yields a value, an operator yields a filter
clause, and a wrapper yields what it holds. On its way the walk records every field that it visits, and
every comparison that it drops because it names the skip field: that field is constrained elsewhere, so
the comparison becomes a clause that matches everything.
-/

namespace FilterQuery

/-- What a walk has recorded, in the order of the visit. -/
structure Trace where
  /-- The fields, once for each reference. -/
  fields : List String
  /-- The skip field, once for each comparison that was dropped. -/
  skipped : List String
deriving DecidableEq

/-- A step of a walk. -/
abbrev Walk (α : Type) := StateT Trace (Except CompileError) α

/-- What an expression yields. -/
inductive Outcome where
  | value (value : Value)
  | filter (clause : Clause)

namespace Outcome

/-- The clause of an outcome that has to be a filter. -/
def toFilter (place : FilterPlace) : Outcome → Except CompileError Clause
  | .filter c => .ok c
  | .value _ => .error (.expectedFilter place)

/-- The value of an outcome that has to be one. -/
def toValue (place : ValuePlace) : Outcome → Except CompileError Value
  | .value v => .ok v
  | .filter _ => .error (.expectedValue place)

end Outcome

namespace Walk

/-- Records a field. -/
def recordField (name : String) : Walk Unit :=
  modify fun trace => { trace with fields := trace.fields ++ [name] }

/-- Records a dropped comparison. -/
def recordSkipped (name : String) : Walk Unit :=
  modify fun trace => { trace with skipped := trace.skipped ++ [name] }

/-! ## Clauses of the operators -/

/-- Equality with a value. Since no null is stored, equality with null means that there is no value. -/
def equalityClause (field : String) (value : Value) : Clause :=
  if value.isNull then .missing field else .term field value

/-- A comparison of a field with a value. What is no equality has to put a bound on the field. -/
def comparisonClause (comparison : Comparison) (field : String) (value : Value) :
    Except CompileError Clause :=
  match value, comparison with
  | .array _, _ => .error (.expectedScalar comparison)
  | value, .equal => .ok (equalityClause field value)
  | value, .notEqual => .ok (.not (equalityClause field value))
  | value, comparison =>
    match (BinaryOperator.compare comparison).bound? with
    | none => .error (.invalidOperator comparison.symbol)
    | some bound =>
      if value.isNull then .error (.nullComparison bound field) else .ok (.range field bound value)

/-- A wildcard match of a field with a pattern. -/
def likeClause (field : String) : Value → Except CompileError Clause
  | .string pattern => .ok (.wildcard field pattern)
  | _ => .error (.expectedPattern .like)

/-- The negation of a wildcard match. -/
def unlikeClause (field : String) : Value → Except CompileError Clause
  | .string pattern => .ok (.not (.wildcard field pattern))
  | _ => .error (.expectedPattern .unlike)

/-- Membership of a field in an array. -/
def amongClause (field : String) : Value → Except CompileError Clause
  | .array values => .ok (.terms field values)
  | _ => .error (.expectedArray .among)

/-! ## Operands -/

/-- The name that a field operand yields. -/
def fieldName (operator : BinaryOperator) (field : Walk Outcome) : Walk String := do
  match ← (← field).toValue (.operandOf operator) with
  | .string name => return name
  | _ => throw (.missingFieldOperand operator)

/-- The name of the field operand and the value of the other one, in this order of visit. -/
def operands (operator : BinaryOperator) (field value : Walk Outcome) : Walk (String × Value) := do
  let name ← fieldName operator field
  let value ← (← value).toValue (.operandOf operator)
  return (name, value)

/-- The given clause, unless the field is the skip field. A clause that is dropped may be in error. -/
def unlessSkipped (skip? : Option String) (field : String) (clause : Except CompileError Clause) :
    Walk Clause :=
  if skip? = some field then do
    recordSkipped field
    return .matchAll
  else clause

/-- A comparison, with the steps that visit the field and the value. -/
def compareStep (skip? : Option String) (comparison : Comparison) (field value : Walk Outcome) :
    Walk Clause := do
  let (name, value) ← operands (.compare comparison) field value
  unlessSkipped skip? name (comparisonClause comparison name value)

/-- A filter operand, with the step that visits it. -/
def filterStep (place : FilterPlace) (step : Walk Outcome) : Walk Clause := do
  (← step).toFilter place

/-- An operator with two operands, with the operands and the steps that visit them. A comparison without
a field on its left is turned around, for which it has to have a mirror. -/
def binaryStep (skip? : Option String) (operator : BinaryOperator) (left right : Expr)
    (visitLeft visitRight : Walk Outcome) : Walk Clause :=
  match operator with
  | .and => do
    let l ← filterStep .operandOfAnd visitLeft
    let r ← filterStep .operandOfAnd visitRight
    return .bool .must [l, r]
  | .or => do
    let l ← filterStep .operandOfOr visitLeft
    let r ← filterStep .operandOfOr visitRight
    return .bool .should [l, r]
  | .compare comparison =>
    if left.isFieldReference then compareStep skip? comparison visitLeft visitRight
    else if right.isFieldReference then
      match operator.mirror? with
      | some (.compare mirrored) => compareStep skip? mirrored visitRight visitLeft
      | _ => throw (.invalidOperator operator.symbol)
    else throw (.missingFieldOperand operator)
  | .like => do
    if !left.isFieldReference then throw (.leftFieldOperand operator)
    let (name, value) ← operands operator visitLeft visitRight
    likeClause name value
  | .unlike => do
    if !left.isFieldReference then throw (.leftFieldOperand operator)
    let (name, value) ← operands operator visitLeft visitRight
    unlikeClause name value
  | .among => do
    if !left.isFieldReference then throw (.leftFieldOperand operator)
    let (name, value) ← operands operator visitLeft visitRight
    unlessSkipped skip? name (amongClause name value)

/-- The guard of a mirrored comparison never fails, since every comparison has a mirror. -/
theorem binaryStep_compare (skip? : Option String) (comparison : Comparison) (left right : Expr)
    (visitLeft visitRight : Walk Outcome) :
    binaryStep skip? (.compare comparison) left right visitLeft visitRight =
      if left.isFieldReference then compareStep skip? comparison visitLeft visitRight
      else if right.isFieldReference then compareStep skip? comparison.mirror visitRight visitLeft
      else throw (.missingFieldOperand (.compare comparison)) := rfl

/-! ## The visit -/

mutual

/-- Visits an expression. An operator is checked before its operands are visited. -/
def visit (skip? : Option String) : Expr → Walk Outcome
  | .null => return .value .null
  | .boolean value => return .value (.bool value)
  | .number value => return .value (.number value)
  | .string value => return .value (.string value)
  | .moment value => return .value (.string value.millisText)
  | .duration value => return .value (.string value.canonical)
  | .filter ast => visit skip? ast
  | .array elements => return .value (.array (← visitElements skip? elements))
  | .unary token argument =>
    match UnaryOperator.ofToken? token with
    | none => throw (.invalidOperator token)
    | some .not => do
      let clause ← filterStep .operandOfNot (visit skip? argument)
      return .filter (.bool .mustNot [clause])
  | .field name => do
    recordField name
    return .value (.string name)
  | .member object property => do
    let object ← (← visit skip? object).toValue .memberPart
    let property ← (← visit skip? property).toValue .memberPart
    return .value (.string (object.text ++ "." ++ property.text))
  | .binary token left right =>
    match BinaryOperator.ofToken? token with
    | none => throw (.invalidOperator token)
    | some operator => do
      let clause ←
        binaryStep skip? operator left right (visit skip? left) (visit skip? right)
      return .filter clause
  | .term expression => visit skip? expression
  | .fulltext text => return .filter (.matchPhrase Clause.allFields text)

/-- Visits the elements of an array, which have to be values. -/
def visitElements (skip? : Option String) : List Expr → Walk (List Value)
  | [] => return []
  | element :: rest => do
    let value ← (← visit skip? element).toValue .arrayElement
    return value :: (← visitElements skip? rest)

end

end Walk

end FilterQuery
