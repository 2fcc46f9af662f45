import FilterQuery.Proofs.OperandOrder
import FilterQuery.Proofs.WalkRules
import Mathlib.Data.Quot
import Mathlib.Logic.Relation

/-!
# Rewriting expressions

Some ways to write a filter mean the same: a wrapper adds nothing, a path can be written as one name, and
its parts can be grouped either way. Each is given by a rule for one node. `Expr.Rewrites` applies a rule at
one place of a tree, however deep it stands, and `Expr.Interchanged` applies it any number of times, forth
and back.

What surrounds the place asks little of what stands there. An operator asks whether an operand is a field
reference; beyond that, everything goes by the visit of the parts. So it is enough to look at the rule: if
it keeps the form and the visit of a node, then it keeps them of the whole tree
(`Expr.Rewrites.visitedAlike`), and the same holds of the form, the value and the clauses
(`Expr.Rewrites.meantAlike`).
-/

namespace FilterQuery

namespace Expr

/-- One place of the expression is rewritten by the rule. -/
inductive Rewrites (rule : Expr → Expr → Prop) : Expr → Expr → Prop
  | here {e e'} : rule e e' → Rewrites rule e e'
  | filter {e e'} : Rewrites rule e e' → Rewrites rule (.filter e) (.filter e')
  | term {e e'} : Rewrites rule e e' → Rewrites rule (.term e) (.term e')
  | unary {token e e'} : Rewrites rule e e' → Rewrites rule (.unary token e) (.unary token e')
  | array {e e'} (before after : List Expr) : Rewrites rule e e' →
      Rewrites rule (.array (before ++ e :: after)) (.array (before ++ e' :: after))
  | object {e e' property} : Rewrites rule e e' →
      Rewrites rule (.member e property) (.member e' property)
  | property {e e' object} : Rewrites rule e e' →
      Rewrites rule (.member object e) (.member object e')
  | left {token e e' r} : Rewrites rule e e' →
      Rewrites rule (.binary token e r) (.binary token e' r)
  | right {token e e' l} : Rewrites rule e e' →
      Rewrites rule (.binary token l e) (.binary token l e')

/-- Any places of the expression are rewritten by the rule, in either direction and any number of times. -/
def Interchanged (rule : Expr → Expr → Prop) : Expr → Expr → Prop :=
  Relation.EqvGen (Rewrites rule)

variable {rule : Expr → Expr → Prop} {skip? : Option String} {e e' : Expr}

/-- A rule that goes both ways rewrites both ways. -/
theorem Rewrites.symm (hrule : ∀ d d', rule d d' → rule d' d) (h : Rewrites rule e e') :
    Rewrites rule e' e := by
  induction h with
  | here hd => exact .here (hrule _ _ hd)
  | filter _ ih => exact .filter ih
  | term _ ih => exact .term ih
  | unary _ ih => exact .unary ih
  | array before after _ ih => exact .array before after ih
  | object _ ih => exact .object ih
  | property _ ih => exact .property ih
  | left _ ih => exact .left ih
  | right _ ih => exact .right ih

/-- What one step keeps is kept by any number of steps. -/
theorem Interchanged.map_eq {α : Sort*} (f : Expr → α) (h : Interchanged rule e e')
    (hstep : ∀ d d', Rewrites rule d d' → f d = f d') : f e = f e' :=
  congrArg (Quot.lift f hstep) (Quot.eqvGen_sound h)

/-! ## Visits -/

/-- Of two expressions both or none are field references, and they are visited alike from every trace,
with the same outcome or the same error. -/
structure VisitedAlike (skip? : Option String) (e e' : Expr) : Prop where
  form : e'.isFieldReference = e.isFieldReference
  visit : Walk.visit skip? e' = Walk.visit skip? e

theorem visitElements_middle (before after : List Expr)
    (h : Walk.visit skip? e' = Walk.visit skip? e) :
    Walk.visitElements skip? (before ++ e' :: after) =
      Walk.visitElements skip? (before ++ e :: after) := by
  induction before with
  | nil => rw [List.nil_append, List.nil_append, Walk.visitElements, Walk.visitElements, h]
  | cons first before ih =>
      rw [List.cons_append, List.cons_append, Walk.visitElements, Walk.visitElements, ih]

/-- A rule that the visit of a node does not see is not seen at any place. -/
theorem Rewrites.visitedAlike (h : Rewrites rule e e')
    (hrule : ∀ d d', rule d d' → VisitedAlike skip? d d') : VisitedAlike skip? e e' := by
  induction h with
  | here hd => exact hrule _ _ hd
  | filter _ ih => exact ⟨rfl, ih.visit⟩
  | term _ ih => exact ⟨rfl, ih.visit⟩
  | unary _ ih =>
      refine ⟨rfl, ?_⟩
      rw [Walk.visit, Walk.visit, ih.visit]
  | array before after _ ih =>
      refine ⟨rfl, ?_⟩
      rw [Walk.visit, Walk.visit, visitElements_middle before after ih.visit]
  | object _ ih | property _ ih =>
      refine ⟨rfl, ?_⟩
      rw [Walk.visit, Walk.visit, ih.visit]
  | left _ ih => exact ⟨rfl, Walk.visit_binary_congr ih.form rfl ih.visit rfl⟩
  | right _ ih => exact ⟨rfl, Walk.visit_binary_congr rfl ih.form rfl ih.visit⟩

/-! ## Values and clauses -/

/-- Of two expressions both or none are field references, they denote the same value, and the second one
emits what the first one emits. The fields that they record may differ. -/
structure MeantAlike (skip? : Option String) (e e' : Expr) : Prop where
  form : e'.isFieldReference = e.isFieldReference
  value : e'.value? = e.value?
  emits : ∀ c, Emits skip? e c → Emits skip? e' c

theorem MeantAlike.refl (e : Expr) : MeantAlike skip? e e :=
  ⟨rfl, rfl, fun _ h => h⟩

theorem MeantAlike.path?_eq (h : MeantAlike skip? e e') : e'.path? = e.path? := by
  apply Option.ext
  intro p
  rw [path?_eq_some_iff, path?_eq_some_iff, h.form, h.value]

theorem values?_middle (before after : List Expr) (h : e'.value? = e.value?) :
    values? (before ++ e' :: after) = values? (before ++ e :: after) := by
  induction before with
  | nil => rw [List.nil_append, List.nil_append, values?, values?, h]
  | cons first before ih => rw [List.cons_append, List.cons_append, values?, values?, ih]

/-- The operands of an operator can be replaced by others that mean the same. -/
theorem MeantAlike.binary {token : String} {l l' r r' : Expr} (hl : MeantAlike skip? l l')
    (hr : MeantAlike skip? r r') : MeantAlike skip? (.binary token l r) (.binary token l' r') := by
  refine ⟨rfl, rfl, ?_⟩
  intro c hc
  cases hc with
  | and htoken ha hb => exact .and htoken (hl.emits _ ha) (hr.emits _ hb)
  | or htoken ha hb => exact .or htoken (hl.emits _ ha) (hr.emits _ hb)
  | test hresolves htested =>
      refine .test ?_ htested
      cases hresolves with
      | left htoken hpath hvalue =>
          exact .left htoken (hl.path?_eq.trans hpath) (hr.value.trans hvalue)
      | right htoken hform hpath hvalue =>
          exact .right htoken (hl.form.trans hform) (hr.path?_eq.trans hpath)
            (hl.value.trans hvalue)

/-- A rule that keeps the meaning of a node keeps that of the whole expression. -/
theorem Rewrites.meantAlike (h : Rewrites rule e e')
    (hrule : ∀ d d', rule d d' → MeantAlike skip? d d') : MeantAlike skip? e e' := by
  induction h with
  | here hd => exact hrule _ _ hd
  | filter _ ih =>
      refine ⟨rfl, ih.value, ?_⟩
      intro c hc
      cases hc with
      | filter hc => exact .filter (ih.emits c hc)
  | term _ ih =>
      refine ⟨rfl, ih.value, ?_⟩
      intro c hc
      cases hc with
      | term hc => exact .term (ih.emits c hc)
  | unary _ ih =>
      refine ⟨rfl, rfl, ?_⟩
      intro c hc
      cases hc with
      | not htoken hc => exact .not htoken (ih.emits _ hc)
  -- Neither an array nor a path emits anything.
  | array before after _ ih =>
      refine ⟨rfl, ?_, ?_⟩
      · rw [value?, value?, values?_middle before after ih.value]
      · intro c hc
        cases hc
  | object _ ih | property _ ih =>
      refine ⟨rfl, ?_, ?_⟩
      · rw [value?, value?, ih.value]
      · intro c hc
        cases hc
  | left _ ih => exact ih.binary (.refl _)
  | right _ ih => exact (MeantAlike.refl _).binary ih

end Expr

end FilterQuery
