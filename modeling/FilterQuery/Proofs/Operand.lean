import FilterQuery.Expr
import FilterQuery.Operator
import FilterQuery.Value

/-!
# What an operand denotes

The walk over an expression yields a value for an operand and records the fields on its way. Both
are functions of the operand alone: neither the skip field nor what was recorded before has a part
in them. This module states the two functions by recursion over the expression, so that the
statements about compiled filters can speak of operands without running the walk.

## Main definitions

* `Expr.induct` — induction over expressions with one hypothesis for all elements of an array.
* `Expr.value?` — the value that an expression denotes, if it denotes one.
* `Expr.path?` — the path that a field reference resolves to.
* `Expr.fieldNames` — the fields of an expression in the order of the visit.
-/

namespace FilterQuery

namespace Expr

/-- Induction over expressions. The elements of an array share one hypothesis, which the recursor
of the type splits over a second motive on lists. -/
@[elab_as_elim, induction_eliminator]
theorem induct {motive : Expr → Prop}
    (null : motive .null)
    (boolean : ∀ value, motive (.boolean value))
    (number : ∀ value, motive (.number value))
    (string : ∀ value, motive (.string value))
    (moment : ∀ value, motive (.moment value))
    (duration : ∀ value, motive (.duration value))
    (filter : ∀ ast, motive ast → motive (.filter ast))
    (array : ∀ elements, (∀ e ∈ elements, motive e) → motive (.array elements))
    (unary : ∀ token argument, motive argument → motive (.unary token argument))
    (field : ∀ name, motive (.field name))
    (member : ∀ object property, motive object → motive property →
      motive (.member object property))
    (binary : ∀ token left right, motive left → motive right →
      motive (.binary token left right))
    (term : ∀ expression, motive expression → motive (.term expression))
    (fulltext : ∀ text, motive (.fulltext text))
    (e : Expr) : motive e :=
  @Expr.rec motive (fun es => ∀ e ∈ es, motive e)
    null boolean number string moment duration filter array unary field member binary term fulltext
    (fun _ h => absurd h List.not_mem_nil)
    (fun _ _ head tail => List.forall_mem_cons.2 ⟨head, tail⟩) e

/-! ## Values -/

mutual

/-- The value that an expression denotes. A field reference denotes its own path, and an operator
or a phrase denotes no value. -/
def value? : Expr → Option Value
  | .null => some .null
  | .boolean b => some (.bool b)
  | .number n => some (.number n)
  | .string s => some (.string s)
  | .moment m => some (.string m.millisText)
  | .duration d => some (.string d.canonical)
  | .filter ast => ast.value?
  | .array elements => (values? elements).map .array
  | .unary _ _ => none
  | .field name => some (.string name)
  | .member object property =>
    object.value?.bind fun a => property.value?.map fun b => .string (a.text ++ "." ++ b.text)
  | .binary _ _ _ => none
  | .term expression => expression.value?
  | .fulltext _ => none

/-- The values of a list of expressions, if each denotes one. -/
def values? : List Expr → Option (List Value)
  | [] => some []
  | element :: rest => element.value?.bind fun v => (values? rest).map (v :: ·)

end

/-- The path that a field reference resolves to. No other expression has a path, whatever it wraps. -/
def path? : Expr → Option String
  | .field name => some name
  | .member object property =>
    object.value?.bind fun a => property.value?.map fun b => a.text ++ "." ++ b.text
  | _ => none

/-- Only a field reference has a path. -/
theorem isFieldReference_of_path? {e : Expr} {p : String} (h : e.path? = some p) :
    e.isFieldReference = true := by
  cases e with
  | field name => rfl
  | member object property => rfl
  | _ => cases h

/-- The value of a field reference is its path. -/
theorem value?_eq_path? {e : Expr} (h : e.isFieldReference = true) :
    e.value? = e.path?.map .string := by
  cases e with
  | field name => rfl
  | member object property =>
      simp only [value?, path?]
      cases object.value? with
      | none => rfl
      | some a => cases property.value? <;> rfl
  | _ => cases h

/-- A field reference has the path that it denotes as a value. -/
theorem path?_eq_some_iff {e : Expr} {p : String} :
    e.path? = some p ↔ e.isFieldReference = true ∧ e.value? = some (.string p) := by
  constructor
  · intro h
    have href := isFieldReference_of_path? h
    exact ⟨href, by rw [value?_eq_path? href, h]; rfl⟩
  · intro h
    obtain ⟨href, hv⟩ := h
    rw [value?_eq_path? href] at hv
    obtain ⟨q, hq, hqp⟩ := Option.map_eq_some_iff.1 hv
    cases hqp
    exact hq

/-! ## Fields -/

mutual

/-- The names of the fields of an expression in the order of the visit: from left to right, save that
a comparison visits its field operand first. -/
def fieldNames : Expr → List String
  | .filter ast => ast.fieldNames
  | .array elements => listFieldNames elements
  | .unary _ argument => argument.fieldNames
  | .field name => [name]
  | .member object property => object.fieldNames ++ property.fieldNames
  | .binary token left right =>
    match BinaryOperator.ofToken? token with
    | some (.compare _) =>
      if left.isFieldReference then left.fieldNames ++ right.fieldNames
      else right.fieldNames ++ left.fieldNames
    | _ => left.fieldNames ++ right.fieldNames
  | .term expression => expression.fieldNames
  | _ => []

/-- The names of the fields of a list of expressions. -/
def listFieldNames : List Expr → List String
  | [] => []
  | element :: rest => element.fieldNames ++ listFieldNames rest

end

/-- With a field reference on its left, an operator visits its operands from left to right. -/
theorem fieldNames_binary_left {token : String} {l r : Expr} (hl : l.isFieldReference = true) :
    (Expr.binary token l r).fieldNames = l.fieldNames ++ r.fieldNames := by
  rw [fieldNames]
  split
  · rw [if_pos hl]
  · rfl

/-- A comparison without a field reference on its left visits its right operand first. -/
theorem fieldNames_binary_right {token : String} {l r : Expr} {cmp : Comparison}
    (htoken : BinaryOperator.ofToken? token = some (.compare cmp))
    (hl : l.isFieldReference = false) :
    (Expr.binary token l r).fieldNames = r.fieldNames ++ l.fieldNames := by
  rw [fieldNames, htoken]
  simp only [hl, Bool.false_eq_true, if_false]

end Expr

end FilterQuery
