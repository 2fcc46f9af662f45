import FilterQuery.Proofs.FieldRecord
import FilterQuery.Proofs.Grammar
import FilterQuery.Proofs.Rewriting
import Mathlib.Logic.Relation

/-!
# Wrappers

A wrapper around an expression is visited as what it holds. There is one place where it counts all the
same: an operator asks for a field reference by the form of its operand, and a field in a wrapper is none.
So wrappers can be put in and taken out anywhere (`Expr.Wraps`), as long as each operand stays a field
reference or stays none (`Expr.operandForms`); the expression is then visited alike, errors included.

The expressions on the way from one tree to the other need not keep the forms of the operands, only the two
at its ends do. Therefore the proof does not go along the way. It compares the ends, which have the same
tree below all wrappers (`Expr.unwrapped`), part by part.

## Main results

* `Expr.Rewrites.unwrapped_eq` — a wrapper more or less does not change the tree below the wrappers.
* `Expr.SameBelow.binary`, `Expr.SameBelow.array_cons` and their like — what is the same below wrappers
  has parts that are.
* `Walk.visit_of_sameBelow` — the tree below the wrappers and the forms of the operands determine a visit.
* `compile_rewrapped` — the same of a compilation.
-/

namespace FilterQuery

namespace Expr

/-! ## Wrapping and unwrapping -/

/-- An expression gets a wrapper. -/
inductive Wraps : Expr → Expr → Prop
  | filter (e : Expr) : Wraps e (.filter e)
  | term (e : Expr) : Wraps e (.term e)

/-- Whether the operands of a node are field references, if it is an operator with two operands. -/
def nodeForms : Expr → List Bool
  | .binary _ left right => [left.isFieldReference, right.isFieldReference]
  | _ => []

/-- Whether the operands of the operators of the expression are field references, operator by operator.
Wrappers have no operands, so that expressions with the same tree below their wrappers can be compared
entry by entry. -/
def operandForms (e : Expr) : List Bool :=
  e.nodes.flatMap nodeForms

mutual

/-- The expression without any wrappers, outside and inside. -/
def unwrapped : Expr → Expr
  | .filter ast => ast.unwrapped
  | .array elements => .array (listUnwrapped elements)
  | .unary token argument => .unary token argument.unwrapped
  | .member object property => .member object.unwrapped property.unwrapped
  | .binary token left right => .binary token left.unwrapped right.unwrapped
  | .term expression => expression.unwrapped
  | e => e

/-- The elements of a list without any wrappers. -/
def listUnwrapped : List Expr → List Expr
  | [] => []
  | element :: rest => element.unwrapped :: listUnwrapped rest

end

variable {e e' : Expr}

theorem listUnwrapped_middle (before after : List Expr) (h : e'.unwrapped = e.unwrapped) :
    listUnwrapped (before ++ e' :: after) = listUnwrapped (before ++ e :: after) := by
  induction before with
  | nil => rw [List.nil_append, List.nil_append, listUnwrapped, listUnwrapped, h]
  | cons first before ih =>
      rw [List.cons_append, List.cons_append, listUnwrapped, listUnwrapped, ih]

/-- A wrapper more or less does not change the tree below the wrappers. -/
theorem Rewrites.unwrapped_eq (h : Rewrites Wraps e e') : e'.unwrapped = e.unwrapped := by
  induction h with
  | here hwrap => cases hwrap <;> rfl
  | filter _ ih | term _ ih => exact ih
  | array before after _ ih => rw [unwrapped, unwrapped, listUnwrapped_middle before after ih]
  | unary _ ih | object _ ih | property _ ih | left _ ih | right _ ih =>
      rw [unwrapped, unwrapped, ih]

/-! ## The forms of operands -/

theorem operandForms_binary (token : String) (l r : Expr) :
    (Expr.binary token l r).operandForms =
      l.isFieldReference :: r.isFieldReference :: (l.operandForms ++ r.operandForms) := by
  rw [operandForms, nodes, List.flatMap_cons, List.flatMap_append]
  rfl

theorem operandForms_member (object property : Expr) :
    (Expr.member object property).operandForms = object.operandForms ++ property.operandForms := by
  rw [operandForms, nodes, List.flatMap_cons, List.flatMap_append]
  rfl

theorem operandForms_array_cons (element : Expr) (rest : List Expr) :
    (Expr.array (element :: rest)).operandForms =
      element.operandForms ++ (Expr.array rest).operandForms := by
  show (listNodes (element :: rest)).flatMap nodeForms = _
  rw [listNodes, List.flatMap_append]
  rfl

theorem length_operandForms_array {elements : List Expr}
    (helements : ∀ e ∈ elements, e.unwrapped.operandForms.length = e.operandForms.length) :
    (Expr.array (listUnwrapped elements)).operandForms.length =
      (Expr.array elements).operandForms.length := by
  induction elements with
  | nil => rfl
  | cons e rest ih =>
      have hhead := helements e List.mem_cons_self
      have htail := ih fun e' he' => helements e' (List.mem_cons_of_mem _ he')
      rw [listUnwrapped, operandForms_array_cons, operandForms_array_cons, List.length_append,
        List.length_append, hhead, htail]

/-- Without wrappers the same operands are counted. -/
theorem length_operandForms_unwrapped (e : Expr) :
    e.unwrapped.operandForms.length = e.operandForms.length := by
  induction e with
  | null | boolean | number | string | moment | duration | field | fulltext => rfl
  | filter ast ih | term ast ih => exact ih
  | unary token argument ih => exact ih
  | array elements ih => exact length_operandForms_array ih
  | member object property iho ihp =>
      rw [unwrapped, operandForms_member, operandForms_member, List.length_append,
        List.length_append, iho, ihp]
  | binary token l r ihl ihr =>
      rw [unwrapped, operandForms_binary, operandForms_binary, List.length_cons, List.length_cons,
        List.length_cons, List.length_cons, List.length_append, List.length_append, ihl, ihr]

/-! ## The same tree below wrappers -/

/-- Two expressions have the same tree below their wrappers, and the same of its operands are field
references. -/
structure SameBelow (e e' : Expr) : Prop where
  tree : e'.unwrapped = e.unwrapped
  forms : e'.operandForms = e.operandForms

/-- The forms of two parts are those of the first one and those of the second one, since expressions with
the same tree have as many operands. -/
theorem SameBelow.of_append {forms forms' : List Bool} (htree : e'.unwrapped = e.unwrapped)
    (hforms : e'.operandForms ++ forms' = e.operandForms ++ forms) :
    SameBelow e e' ∧ forms' = forms := by
  have hlength : e'.operandForms.length = e.operandForms.length := by
    rw [← length_operandForms_unwrapped e', ← length_operandForms_unwrapped e, htree]
  obtain ⟨hfirst, hsecond⟩ := List.append_inj hforms hlength
  exact ⟨⟨htree, hfirst⟩, hsecond⟩

theorem unwrapped_core (e : Expr) : e.core.unwrapped = e.unwrapped := by
  induction e with
  | filter ast ih | term ast ih => exact ih
  | _ => rfl

theorem operandForms_core (e : Expr) : e.core.operandForms = e.operandForms := by
  induction e with
  | filter ast ih | term ast ih => exact ih
  | _ => rfl

theorem SameBelow.core (h : SameBelow e e') : SameBelow e e'.core :=
  ⟨e'.unwrapped_core.trans h.tree, e'.operandForms_core.trans h.forms⟩

/-! An expression with the tree of an operator, of a path or of an array is one itself, once the wrappers
around it are taken off, and its parts have the trees of the parts. -/

theorem exists_core_unary {token : String} {a : Expr} (h : e.unwrapped = .unary token a) :
    ∃ argument, e.core = .unary token argument ∧ argument.unwrapped = a := by
  induction e with
  | filter ast ih | term ast ih => exact ih h
  | unary _ argument =>
      cases h
      exact ⟨argument, rfl, rfl⟩
  | _ => cases h

theorem exists_core_array {items : List Expr} (h : e.unwrapped = .array items) :
    ∃ elements, e.core = .array elements := by
  induction e with
  | filter ast ih | term ast ih => exact ih h
  | array elements => exact ⟨elements, rfl⟩
  | _ => cases h

theorem exists_core_member {a b : Expr} (h : e.unwrapped = .member a b) :
    ∃ object property, e.core = .member object property ∧ object.unwrapped = a ∧
      property.unwrapped = b := by
  induction e with
  | filter ast ih | term ast ih => exact ih h
  | member object property =>
      cases h
      exact ⟨object, property, rfl, rfl, rfl⟩
  | _ => cases h

theorem exists_core_binary {token : String} {a b : Expr} (h : e.unwrapped = .binary token a b) :
    ∃ l r, e.core = .binary token l r ∧ l.unwrapped = a ∧ r.unwrapped = b := by
  induction e with
  | filter ast ih | term ast ih => exact ih h
  | binary _ l r =>
      cases h
      exact ⟨l, r, rfl, rfl, rfl⟩
  | _ => cases h

theorem SameBelow.unary {token : String} {argument : Expr} (h : SameBelow (.unary token argument) e') :
    ∃ argument', e'.core = .unary token argument' ∧ SameBelow argument argument' := by
  obtain ⟨argument', hcore, htree⟩ := exists_core_unary h.tree
  have hforms := h.core.forms
  rw [hcore] at hforms
  exact ⟨argument', hcore, htree, hforms⟩

theorem SameBelow.array {elements : List Expr} (h : SameBelow (.array elements) e') :
    ∃ elements', e'.core = .array elements' ∧ SameBelow (.array elements) (.array elements') := by
  obtain ⟨elements', hcore⟩ := exists_core_array h.tree
  exact ⟨elements', hcore, hcore ▸ h.core⟩

theorem SameBelow.array_cons {rest rest' : List Expr}
    (h : SameBelow (.array (e :: rest)) (.array (e' :: rest'))) :
    SameBelow e e' ∧ SameBelow (.array rest) (.array rest') := by
  obtain ⟨htree, hforms⟩ := h
  rw [operandForms_array_cons, operandForms_array_cons] at hforms
  simp only [unwrapped, listUnwrapped, Expr.array.injEq, List.cons.injEq] at htree
  obtain ⟨hhead, hrest⟩ := SameBelow.of_append htree.1 hforms
  refine ⟨hhead, ?_, hrest⟩
  rw [unwrapped, unwrapped, htree.2]

theorem SameBelow.member {object property : Expr} (h : SameBelow (.member object property) e') :
    ∃ object' property', e'.core = .member object' property' ∧ SameBelow object object' ∧
      SameBelow property property' := by
  obtain ⟨object', property', hcore, hobject, hproperty⟩ := exists_core_member h.tree
  have hforms := h.core.forms
  rw [hcore, operandForms_member, operandForms_member] at hforms
  obtain ⟨hfirst, hsecond⟩ := SameBelow.of_append hobject hforms
  exact ⟨object', property', hcore, hfirst, hproperty, hsecond⟩

theorem SameBelow.binary {token : String} {l r : Expr} (h : SameBelow (.binary token l r) e') :
    ∃ l' r', e'.core = .binary token l' r' ∧ l'.isFieldReference = l.isFieldReference ∧
      r'.isFieldReference = r.isFieldReference ∧ SameBelow l l' ∧ SameBelow r r' := by
  obtain ⟨l', r', hcore, hl, hr⟩ := exists_core_binary h.tree
  have hforms := h.core.forms
  rw [hcore, operandForms_binary, operandForms_binary, List.cons.injEq, List.cons.injEq] at hforms
  obtain ⟨hlform, hrform, hforms⟩ := hforms
  obtain ⟨hleft, hright⟩ := SameBelow.of_append hl hforms
  exact ⟨l', r', hcore, hlform, hrform, hleft, hr, hright⟩

end Expr

/-! ## Visits -/

namespace Walk

variable {skip? : Option String}

theorem visit_core (e : Expr) : visit skip? e.core = visit skip? e := by
  induction e with
  | filter ast ih | term ast ih => exact ih
  | _ => rfl

theorem visitElements_of_sameBelow {elements : List Expr}
    (helements : ∀ e ∈ elements, ∀ e', e.SameBelow e' → visit skip? e' = visit skip? e) :
    ∀ elements', Expr.SameBelow (.array elements) (.array elements') →
      visitElements skip? elements' = visitElements skip? elements := by
  induction elements with
  | nil =>
      intro elements' h
      cases elements' with
      | nil => rfl
      | cons e' rest' => cases h.tree
  | cons e rest ih =>
      intro elements' h
      cases elements' with
      | nil => cases h.tree
      | cons e' rest' =>
          obtain ⟨hhead, htail⟩ := h.array_cons
          have hfirst := helements e List.mem_cons_self e' hhead
          have hrest := ih (fun d hd => helements d (List.mem_cons_of_mem _ hd)) rest' htail
          rw [visitElements, visitElements, hfirst, hrest]

/-- A visit is determined by the tree below the wrappers and by the forms of the operands. -/
theorem visit_of_sameBelow (e : Expr) :
    ∀ e', e.SameBelow e' → visit skip? e' = visit skip? e := by
  -- On the first expression; the wrappers around the second one are taken off in each case.
  induction e with
  | filter ast ih | term ast ih =>
      intro e' h
      exact ih e' ⟨h.tree, h.forms⟩
  | null | boolean | number | string | moment | duration | field | fulltext =>
      intro e' h
      have htree := h.tree
      clear h
      induction e' with
      | filter ast ih | term ast ih => exact ih htree
      | _ => cases htree <;> rfl
  | unary token argument ih =>
      intro e' h
      obtain ⟨argument', hcore, hargument⟩ := h.unary
      rw [← visit_core e', hcore, visit, visit, ih argument' hargument]
  | array elements ih =>
      intro e' h
      obtain ⟨elements', hcore, helements⟩ := h.array
      rw [← visit_core e', hcore, visit, visit, visitElements_of_sameBelow ih elements' helements]
  | member object property iho ihp =>
      intro e' h
      obtain ⟨object', property', hcore, hobject, hproperty⟩ := h.member
      rw [← visit_core e', hcore, visit, visit, iho object' hobject, ihp property' hproperty]
  | binary token l r ihl ihr =>
      intro e' h
      obtain ⟨l', r', hcore, hlform, hrform, hl, hr⟩ := h.binary
      rw [← visit_core e', hcore]
      exact visit_binary_congr hlform hrform (ihl l' hl) (ihr r' hr)

end Walk

/-- **Wrappers are transparent.** With wrappers put in and taken out at any places, but so that the same
operands are field references as before, an expression has the same compilation, in its filter and in both
of its records, or fails with the same error. -/
theorem compile_rewrapped (skip? : Option String) (e e' : Expr)
    (h : Expr.Interchanged Expr.Wraps e e') (hforms : e'.operandForms = e.operandForms) :
    compile skip? e' = compile skip? e := by
  have htree : e.unwrapped = e'.unwrapped :=
    h.map_eq Expr.unwrapped fun d d' hstep => hstep.unwrapped_eq.symm
  rw [compile, compile, Walk.visit_of_sameBelow e e' ⟨htree.symm, hforms⟩]

/-- Wrappers are taken off a part of a path and an array, and put around an element of the array and the
whole. The path is an operand and stays without one. -/
theorem compile_rewrapped_array :
    let kinds := Expr.array [.string "log"]
    let e := Expr.negate (.binary "in" (.member (.term (.field "a")) .null) (.filter kinds))
    let e' := Expr.filter (.negate (.binary "in" (.member (.field "a") .null)
      (.array [.term (.string "log")])))
    let r : Compilation := ⟨.bool .mustNot [.terms "a.null" [.string "log"]], ["a"], []⟩
    Expr.Interchanged Expr.Wraps e e' ∧ e'.operandForms = e.operandForms ∧
      compile none e = .ok r ∧ compile none e' = .ok r := by
  intro kinds e e' r
  let path := Expr.member (.field "a") .null
  let wrapped := Expr.negate (.binary "in" path (.filter kinds))
  let bare := Expr.negate (.binary "in" path kinds)
  let element := Expr.negate (.binary "in" path (.array [.term (.string "log")]))
  have hpart : Expr.Rewrites Expr.Wraps wrapped e := .unary (.left (.object (.here (.term _))))
  have harray : Expr.Rewrites Expr.Wraps bare wrapped := .unary (.right (.here (.filter _)))
  have helement : Expr.Rewrites Expr.Wraps bare element :=
    .unary (.right (.array [] [] (.here (.term _))))
  have hwhole : Expr.Rewrites Expr.Wraps element e' := .here (.filter _)
  have hunwrapped : Expr.Interchanged Expr.Wraps e bare :=
    .symm _ _ (.trans bare wrapped e (.rel _ _ harray) (.rel _ _ hpart))
  have hrewrapped : Expr.Interchanged Expr.Wraps e e' :=
    .trans e bare e' hunwrapped (.trans bare element e' (.rel _ _ helement) (.rel _ _ hwhole))
  have hforms : e'.operandForms = e.operandForms := rfl
  have hcompile : compile none e = .ok r := rfl
  exact ⟨hrewrapped, hforms, hcompile, (compile_rewrapped none e e' hrewrapped hforms).trans hcompile⟩

/-- A field in a wrapper is no field reference, and so its operator has none. -/
example :
    compile none (.binary "==" (.field "a") .null) = .ok ⟨.missing "a", ["a"], []⟩ ∧
      compile none (.binary "==" (.filter (.field "a")) .null) =
        .error (.missingFieldOperand (.compare .equal)) :=
  ⟨rfl, rfl⟩

end FilterQuery
