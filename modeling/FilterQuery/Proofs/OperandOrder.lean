import FilterQuery.Compilation
import FilterQuery.Proofs.Operand

/-!
# The order of operands

A comparison may be written with its field on either side, as `status < 300` or as `300 > status`.
`Expr.mirror` turns around every comparison of a tree that has its field on one side only, however
deep it stands. The walk does not see the difference: it visits the field operand first wherever that
stands, and it names the operator that has the field on its left, in clauses as in errors. So the two
trees are visited alike from every trace (`Walk.visit_mirror`) and have one compilation, or fail with
one error (`compile_mirror`).
-/

namespace FilterQuery

theorem Comparison.mirror_mirror (cmp : Comparison) : cmp.mirror.mirror = cmp := by
  cases cmp with
  | equal => rfl
  | notEqual => rfl
  | within bound => cases bound <;> rfl

namespace Expr

mutual

/-- The expression with every comparison turned around that has exactly one field reference among its
operands: the operands change places, and the operator becomes the mirrored one. -/
def mirror : Expr → Expr
  | .filter ast => .filter ast.mirror
  | .array elements => .array (listMirror elements)
  | .unary token argument => .unary token argument.mirror
  | .member object property => .member object.mirror property.mirror
  | .binary token left right =>
    match BinaryOperator.ofToken? token with
    | some (.compare cmp) =>
      if left.isFieldReference = right.isFieldReference then .binary token left.mirror right.mirror
      else .binary cmp.mirror.symbol right.mirror left.mirror
    | _ => .binary token left.mirror right.mirror
  | .term expression => .term expression.mirror
  | e => e

/-- The elements of a list, each with its comparisons turned around. -/
def listMirror : List Expr → List Expr
  | [] => []
  | element :: rest => element.mirror :: listMirror rest

end

/-- What is a field reference stays one, and nothing becomes one. -/
theorem isFieldReference_mirror (e : Expr) : e.mirror.isFieldReference = e.isFieldReference := by
  cases e with
  | binary token l r =>
      rw [mirror]
      split
      · split <;> rfl
      · rfl
  | _ => rfl

/-- A comparison with one field reference is turned around. -/
theorem mirror_binary_compare {token : String} {cmp : Comparison} {l r : Expr}
    (htoken : BinaryOperator.ofToken? token = some (.compare cmp))
    (hone : l.isFieldReference ≠ r.isFieldReference) :
    (Expr.binary token l r).mirror = .binary cmp.mirror.symbol r.mirror l.mirror := by
  rw [mirror, htoken]
  exact if_neg hone

/-- Any other operator keeps its place, and so does a comparison with no field reference or with two. -/
theorem mirror_binary_other {token : String} {l r : Expr}
    (hother : ¬ ∃ cmp, BinaryOperator.ofToken? token = some (.compare cmp) ∧
      l.isFieldReference ≠ r.isFieldReference) :
    (Expr.binary token l r).mirror = .binary token l.mirror r.mirror := by
  rw [mirror]
  split
  · next cmp htoken =>
    exact if_pos (Decidable.of_not_not fun hone => hother ⟨cmp, htoken, hone⟩)
  · rfl

end Expr

namespace Walk

variable {skip? : Option String}

/-- The step of an operator asks of its operands only which of them are field references. -/
theorem binaryStep_congr {op : BinaryOperator} {l l' r r' : Expr} {visitLeft visitRight : Walk Outcome}
    (hl : l'.isFieldReference = l.isFieldReference) (hr : r'.isFieldReference = r.isFieldReference) :
    binaryStep skip? op l' r' visitLeft visitRight =
      binaryStep skip? op l r visitLeft visitRight := by
  cases op <;> simp only [binaryStep, hl, hr]

/-- The step of a comparison with one field reference is that of the mirrored comparison of the
operands in the other order. -/
theorem binaryStep_mirror {cmp : Comparison} {l r : Expr} {visitLeft visitRight : Walk Outcome}
    (hone : l.isFieldReference ≠ r.isFieldReference) :
    binaryStep skip? (.compare cmp.mirror) r l visitRight visitLeft =
      binaryStep skip? (.compare cmp) l r visitLeft visitRight := by
  cases hl : l.isFieldReference with
  | true =>
      have hr : r.isFieldReference = false := by simpa [hl] using hone
      simp only [binaryStep_compare, hl, hr, if_true, Bool.false_eq_true, if_false, cmp.mirror_mirror]
  | false =>
      have hr : r.isFieldReference = true := by simpa [hl] using hone
      simp only [binaryStep_compare, hl, hr, if_true, Bool.false_eq_true, if_false]

/-- Operands that are visited alike, and of which the same are field references, can replace each
other under an operator. -/
theorem visit_binary_congr {token : String} {l l' r r' : Expr}
    (hl : l'.isFieldReference = l.isFieldReference) (hr : r'.isFieldReference = r.isFieldReference)
    (hvisitLeft : visit skip? l' = visit skip? l) (hvisitRight : visit skip? r' = visit skip? r) :
    visit skip? (.binary token l' r') = visit skip? (.binary token l r) := by
  rw [visit, visit, hvisitLeft, hvisitRight]
  cases BinaryOperator.ofToken? token with
  | none => rfl
  | some op => simp only [binaryStep_congr hl hr]

/-- A comparison with one field reference is visited as it is when it is turned around. -/
theorem visit_binary_mirror {token : String} {cmp : Comparison} {l r : Expr}
    (htoken : BinaryOperator.ofToken? token = some (.compare cmp))
    (hone : l.isFieldReference ≠ r.isFieldReference) :
    visit skip? (.binary cmp.mirror.symbol r l) = visit skip? (.binary token l r) := by
  have hmirrored : BinaryOperator.ofToken? cmp.mirror.symbol = some (.compare cmp.mirror) :=
    BinaryOperator.ofToken?_symbol (.compare cmp.mirror)
  rw [visit, visit, htoken, hmirrored]
  simp only [binaryStep_mirror hone]

theorem visitElements_listMirror {elements : List Expr}
    (helements : ∀ e ∈ elements, visit skip? e.mirror = visit skip? e) :
    visitElements skip? (Expr.listMirror elements) = visitElements skip? elements := by
  induction elements with
  | nil => rfl
  | cons e rest ih =>
      have hhead := helements e List.mem_cons_self
      have htail := ih fun e' he' => helements e' (List.mem_cons_of_mem _ he')
      rw [Expr.listMirror, visitElements, visitElements, hhead, htail]

/-- A visit does not see which way round the comparisons of an expression are written. -/
theorem visit_mirror (e : Expr) : visit skip? e.mirror = visit skip? e := by
  induction e with
  | null | boolean | number | string | moment | duration | field | fulltext => rfl
  | filter ast ih | term ast ih => exact ih
  | array elements ih =>
      rw [Expr.mirror, visit, visit, visitElements_listMirror ih]
  | unary token argument ih =>
      rw [Expr.mirror, visit, visit, ih]
  | member object property iho ihp =>
      rw [Expr.mirror, visit, visit, iho, ihp]
  | binary token l r ihl ihr =>
      by_cases hturned : ∃ cmp, BinaryOperator.ofToken? token = some (.compare cmp) ∧
          l.isFieldReference ≠ r.isFieldReference
      · -- With the other side turned around as well, the operands stand in the same places.
        obtain ⟨cmp, htoken, hone⟩ := hturned
        rw [Expr.mirror_binary_compare htoken hone, ← visit_binary_mirror htoken hone]
        exact visit_binary_congr r.isFieldReference_mirror l.isFieldReference_mirror ihr ihl
      · rw [Expr.mirror_binary_other hturned]
        exact visit_binary_congr l.isFieldReference_mirror r.isFieldReference_mirror ihl ihr

end Walk

/-- **The order of operands does not matter.** With all its comparisons turned around an expression has
the same compilation, in its filter and in both of its records, or fails with the same error. -/
theorem compile_mirror (skip? : Option String) (e : Expr) :
    compile skip? e.mirror = compile skip? e := by
  rw [compile, compile, Walk.visit_mirror]

/-- A comparison of two fields keeps its order; the one beside it is turned around. -/
example :
    (Expr.both (.binary "<" (.number (.int 5)) (.member (.field "host") (.string "load")))
      (.negate (.binary ">=" (.field "a") (.field "b")))).mirror =
    Expr.both (.binary ">" (.member (.field "host") (.string "load")) (.number (.int 5)))
      (.negate (.binary ">=" (.field "a") (.field "b"))) := by
  rfl

end FilterQuery
