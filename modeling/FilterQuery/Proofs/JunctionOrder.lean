import FilterQuery.Proofs.FieldRecord
import FilterQuery.Proofs.FieldUsage
import FilterQuery.Proofs.Rewriting

/-!
# The order of conjunctions and disjunctions

The operands of a conjunction and of a disjunction can change places. The walk does see it: it visits
the operands in the order in which they stand, puts their clauses in that order, and stops at the first
fault, so that of two faults another one may be reported. But whether there is a compilation does not
depend on the order, and what comes out differs in the order only.

A change of places is a rule for one node, `Expr.Exchanges`. `Expr.SwapStep` applies it at one place of a
tree, and `Expr.Swapped` is any number of such steps. Each step is one step of `Clause.ReorderStep` on the
filter, since nothing that holds a conjunction or a disjunction is an operand of a test.

## Main results

* `Expr.SwapStep.emits` — one exchange in the expression is one permutation in the filter.
* `Expr.Swapped.fieldNames_perm` — the record of fields is permuted.
* `compile_swapped` — the compilations of an expression in two orders.
-/

namespace FilterQuery

/-! ## Exchanging operands -/

namespace Expr

/-- The operands of a conjunction or of a disjunction change places. -/
inductive Exchanges : Expr → Expr → Prop
  | and (l r : Expr) : Exchanges (.binary "AND" l r) (.binary "AND" r l)
  | or (l r : Expr) : Exchanges (.binary "OR" l r) (.binary "OR" r l)

/-- The operands of one conjunction or disjunction of the expression change places. -/
def SwapStep : Expr → Expr → Prop :=
  Rewrites Exchanges

/-- The operands of any conjunctions and disjunctions of the expression change places. -/
def Swapped : Expr → Expr → Prop :=
  Relation.ReflTransGen SwapStep

variable {e e' : Expr}

/-- The operands can change back. -/
theorem Exchanges.symm (h : Exchanges e e') : Exchanges e' e := by
  cases h with
  | and l r => exact .and r l
  | or l r => exact .or r l

theorem SwapStep.symm (h : SwapStep e e') : SwapStep e' e :=
  Rewrites.symm (fun _ _ => Exchanges.symm) h

theorem Swapped.symm (h : Swapped e e') : Swapped e' e := by
  induction h with
  | refl => exact .refl
  | tail _ hstep ih => exact .head hstep.symm ih

/-- A list with an element that denotes no value denotes none. -/
theorem values?_eq_none (before after : List Expr) (h : e.value? = none) :
    values? (before ++ e :: after) = none := by
  induction before with
  | nil => rw [List.nil_append, values?, h, Option.bind_none]
  | cons first before ih => simp [values?, ih]

/-- What holds a conjunction or a disjunction denotes no value. -/
theorem SwapStep.value?_eq_none (h : SwapStep e e') : e.value? = none := by
  induction h with
  | here h =>
      cases h with
      | and l r => rfl
      | or l r => rfl
  | filter _ ih => exact ih
  | term _ ih => exact ih
  | unary _ _ => rfl
  | array before after _ ih => rw [value?, values?_eq_none before after ih, Option.map_none]
  | object _ ih => rw [value?, ih, Option.bind_none]
  | property _ ih => simp [value?, ih]
  | left _ _ => rfl
  | right _ _ => rfl

/-! ## The record of fields -/

theorem listFieldNames_perm_of_mem (before after : List Expr) (h : e.fieldNames.Perm e'.fieldNames) :
    (listFieldNames (before ++ e :: after)).Perm (listFieldNames (before ++ e' :: after)) := by
  induction before with
  | nil => exact h.append_right _
  | cons first before ih => exact ih.append_left _

theorem SwapStep.fieldNames_perm (h : SwapStep e e') : e.fieldNames.Perm e'.fieldNames := by
  induction h with
  | here h =>
      cases h with
      | and l r | or l r =>
          exact (fieldNames_binary_perm _ l r).trans
            (List.perm_append_comm.trans (fieldNames_binary_perm _ r l).symm)
  | filter _ ih | term _ ih | unary _ ih => exact ih
  | array before after _ ih => exact listFieldNames_perm_of_mem before after ih
  | object _ ih => exact ih.append_right _
  | property _ ih => exact ih.append_left _
  | left _ ih =>
      exact (fieldNames_binary_perm _ _ _).trans
        ((ih.append_right _).trans (fieldNames_binary_perm _ _ _).symm)
  | right _ ih =>
      exact (fieldNames_binary_perm _ _ _).trans
        ((ih.append_left _).trans (fieldNames_binary_perm _ _ _).symm)

/-- The fields of the expression are recorded in another order. -/
theorem Swapped.fieldNames_perm (h : Swapped e e') : e.fieldNames.Perm e'.fieldNames := by
  induction h with
  | refl => exact .refl _
  | tail _ hstep ih => exact ih.trans hstep.fieldNames_perm

end Expr

/-! ## Reordering clauses -/

namespace Clause

/-- The children of one clause that asks for all or for any of them are permuted. -/
inductive ReorderStep : Clause → Clause → Prop
  | must {clauses clauses'} : clauses.Perm clauses' →
      ReorderStep (.bool .must clauses) (.bool .must clauses')
  | should {clauses clauses'} : clauses.Perm clauses' →
      ReorderStep (.bool .should clauses) (.bool .should clauses')
  | child {c c'} (occur : Occur) (before after : List Clause) : ReorderStep c c' →
      ReorderStep (.bool occur (before ++ c :: after)) (.bool occur (before ++ c' :: after))

/-- Two clauses are the same up to the order of the children that are all or any of them asked for. -/
def Reordered : Clause → Clause → Prop :=
  Relation.ReflTransGen ReorderStep

variable {c c' : Clause}

theorem listMatchAllCount_perm {clauses clauses' : List Clause} (h : clauses.Perm clauses') :
    listMatchAllCount clauses = listMatchAllCount clauses' := by
  induction h with
  | nil => rfl
  | cons c _ ih => rw [listMatchAllCount, listMatchAllCount, ih]
  | swap c d clauses =>
      simp only [listMatchAllCount]
      omega
  | trans _ _ ih ih' => exact ih.trans ih'

theorem ReorderStep.matchAllCount_eq (h : ReorderStep c c') : c.matchAllCount = c'.matchAllCount := by
  induction h with
  | must h | should h => exact listMatchAllCount_perm h
  | child occur before after _ ih =>
      -- The child can be counted first.
      rw [matchAllCount, matchAllCount, listMatchAllCount_perm List.perm_middle,
        listMatchAllCount_perm List.perm_middle, listMatchAllCount, listMatchAllCount, ih]

/-- Reordering drops no test and keeps none that was dropped. -/
theorem Reordered.dropped_eq (skip? : Option String) (h : Reordered c c') :
    c.dropped skip? = c'.dropped skip? := by
  have hcount : c.matchAllCount = c'.matchAllCount := by
    induction h with
    | refl => rfl
    | tail _ hstep ih => exact ih.trans hstep.matchAllCount_eq
  rw [dropped, dropped, hcount]

end Clause

/-! ## Compilations in two orders -/

variable {skip? : Option String} {e e' l r : Expr} {c : Clause}

/-- Both operands of a test denote values. -/
theorem Resolves.value?_isSome {token f : String} {op : BinaryOperator} {v : Value}
    (h : Resolves token l r op f v) : l.value? ≠ none ∧ r.value? ≠ none := by
  cases h with
  | left _ hl hr =>
      rw [(Expr.path?_eq_some_iff.1 hl).2, hr]
      exact ⟨Option.some_ne_none _, Option.some_ne_none _⟩
  | right _ _ hr hl =>
      rw [(Expr.path?_eq_some_iff.1 hr).2, hl]
      exact ⟨Option.some_ne_none _, Option.some_ne_none _⟩

/-- A conjunction or a disjunction is no test. -/
theorem not_resolves_tested {token f : String} {op junction : BinaryOperator} {v : Value}
    (htoken : BinaryOperator.ofToken? token = some junction) (hjunction : junction.isTest = false)
    (hresolves : Resolves token l r op f v) (htested : Tested skip? op f v c) : False := by
  have htest := htested.isTest
  cases hresolves with
  | left hop _ _ =>
      cases hop.symm.trans htoken
      rw [hjunction] at htest
      cases htest
  | right hop _ _ _ =>
      cases hop.symm.trans htoken
      cases hjunction

/-- An exchange of the operands of a node permutes the children of its clause. -/
theorem Expr.Exchanges.emits (h : Exchanges e e') (hc : Emits skip? e c) :
    ∃ c', Emits skip? e' c' ∧ c.ReorderStep c' := by
  cases h with
  | and l r =>
      cases hc with
      | and _ hl hr => exact ⟨_, .and rfl hr hl, .must (.swap _ _ _)⟩
      | or htoken _ _ => cases htoken
      | test hresolves htested => exact (not_resolves_tested rfl rfl hresolves htested).elim
  | or l r =>
      cases hc with
      | and htoken _ _ => cases htoken
      | or _ hl hr => exact ⟨_, .or rfl hr hl, .should (.swap _ _ _)⟩
      | test hresolves htested => exact (not_resolves_tested rfl rfl hresolves htested).elim

/-- One exchange of operands in an expression is one permutation of children in the filter. -/
theorem Expr.SwapStep.emits (h : SwapStep e e') :
    ∀ c, Emits skip? e c → ∃ c', Emits skip? e' c' ∧ c.ReorderStep c' := by
  -- On the place of the exchange: what surrounds it emits a clause around the one that is reordered.
  induction h with
  | here h => exact fun c hc => h.emits hc
  | filter _ ih =>
      intro c hc
      cases hc with
      | filter hc =>
          obtain ⟨c', hc', hstep⟩ := ih c hc
          exact ⟨c', .filter hc', hstep⟩
  | term _ ih =>
      intro c hc
      cases hc with
      | term hc =>
          obtain ⟨c', hc', hstep⟩ := ih c hc
          exact ⟨c', .term hc', hstep⟩
  | unary _ ih =>
      intro c hc
      cases hc with
      | not htoken hc =>
          obtain ⟨c', hc', hstep⟩ := ih _ hc
          exact ⟨_, .not htoken hc', .child .mustNot [] [] hstep⟩
  | array before after _ _ | object _ _ | property _ _ =>
      intro c hc
      cases hc
  | left hstep ih =>
      intro c hc
      cases hc with
      | and htoken hl hr =>
          obtain ⟨c', hc', hreorder⟩ := ih _ hl
          exact ⟨_, .and htoken hc' hr, .child .must [] [_] hreorder⟩
      | or htoken hl hr =>
          obtain ⟨c', hc', hreorder⟩ := ih _ hl
          exact ⟨_, .or htoken hc' hr, .child .should [] [_] hreorder⟩
      -- The operands of a test denote values, and what holds a conjunction or a disjunction has none.
      | test hresolves _ => exact absurd (SwapStep.value?_eq_none hstep) hresolves.value?_isSome.1
  | right hstep ih =>
      intro c hc
      cases hc with
      | and htoken hl hr =>
          obtain ⟨c', hc', hreorder⟩ := ih _ hr
          exact ⟨_, .and htoken hl hc', .child .must [_] [] hreorder⟩
      | or htoken hl hr =>
          obtain ⟨c', hc', hreorder⟩ := ih _ hr
          exact ⟨_, .or htoken hl hc', .child .should [_] [] hreorder⟩
      | test hresolves _ => exact absurd (SwapStep.value?_eq_none hstep) hresolves.value?_isSome.2

/-- Any number of exchanges only reorders the filter. -/
theorem Expr.Swapped.emits (h : Swapped e e') (hc : Emits skip? e c) :
    ∃ c', Emits skip? e' c' ∧ c.Reordered c' := by
  induction h with
  | refl => exact ⟨c, hc, .refl⟩
  | tail _ hstep ih =>
      obtain ⟨c', hc', hreordered⟩ := ih
      obtain ⟨c'', hc'', hreorder⟩ := hstep.emits c' hc'
      exact ⟨c'', hc'', hreordered.tail hreorder⟩

/-- The compilation of an expression is that of the other order, reordered. -/
theorem Expr.Swapped.exists_compile (h : Swapped e e') {r : Compilation}
    (hr : compile skip? e = .ok r) :
    ∃ r', compile skip? e' = .ok r' ∧ r.filter.Reordered r'.filter ∧ r.fields.Perm r'.fields ∧
      r.skipped = r'.skipped := by
  obtain ⟨hemits, hfields, hskipped⟩ := compile_eq_ok_iff.1 hr
  obtain ⟨c', hemits', hreordered⟩ := h.emits hemits
  refine ⟨⟨c', e'.fieldNames, c'.dropped skip?⟩, compile_eq_ok_iff.2 ⟨hemits', rfl, rfl⟩,
    hreordered, ?_, ?_⟩
  · rw [← hfields]
    exact h.fieldNames_perm
  · rw [← hskipped]
    exact hreordered.dropped_eq skip?

/-- **The order of conjunctions and disjunctions matters only for the order.** With the operands of any
conjunctions and disjunctions exchanged, an expression compiles exactly if it did before, and then the
filters are the same up to the order of children, the fields and their usage are permuted, and the same
tests were dropped. -/
theorem compile_swapped (skip? : Option String) (e e' : Expr) (h : e.Swapped e') :
    ((∃ r, compile skip? e = .ok r) ↔ ∃ r', compile skip? e' = .ok r') ∧
      ∀ r r', compile skip? e = .ok r → compile skip? e' = .ok r' →
        r.filter.Reordered r'.filter ∧ r.fields.Perm r'.fields ∧ r.usage.Perm r'.usage ∧
          r.skipped = r'.skipped := by
  refine ⟨⟨?_, ?_⟩, ?_⟩
  · rintro ⟨r, hr⟩
    obtain ⟨r', hr', _⟩ := h.exists_compile hr
    exact ⟨r', hr'⟩
  · rintro ⟨r', hr'⟩
    obtain ⟨r, hr, _⟩ := h.symm.exists_compile hr'
    exact ⟨r, hr⟩
  · intro r r' hr hr'
    obtain ⟨other, hother, hfilter, hfields, hskipped⟩ := h.exists_compile hr
    cases hr'.symm.trans hother
    exact ⟨hfilter, hfields, usageOf_perm hfields, hskipped⟩

/-- A negated conjunction with a dropped test in a disjunction: both change places, and each clause is
the same but for the order. -/
theorem compile_swapped_nested :
    let recent := Expr.binary ">" (.field "time") (.string "dawn")
    let named := Expr.binary "==" (.string "ada") (.field "name")
    let kind := Expr.binary "in" (.field "kind") (.array [.string "log"])
    let e := Expr.either (.unary "NOT" (.both recent named)) kind
    let e' := Expr.either kind (.unary "NOT" (.both named recent))
    let nameTest := Clause.term "name" (.string "ada")
    let kindTest := Clause.terms "kind" [.string "log"]
    let r : Compilation := ⟨.bool .should [.bool .mustNot [.bool .must [.matchAll, nameTest]], kindTest],
      ["time", "name", "kind"], ["time"]⟩
    let r' : Compilation := ⟨.bool .should [kindTest, .bool .mustNot [.bool .must [nameTest, .matchAll]]],
      ["kind", "name", "time"], ["time"]⟩
    e.Swapped e' ∧ compile (some "time") e = .ok r ∧ compile (some "time") e' = .ok r' ∧
      r.filter.Reordered r'.filter ∧ r.usage.Perm r'.usage := by
  intro recent named kind e e' nameTest kindTest r r'
  have hinner : Expr.SwapStep e (.either (.unary "NOT" (.both named recent)) kind) :=
    .left (.unary (.here (.and recent named)))
  have hswapped : e.Swapped e' := (Relation.ReflTransGen.single hinner).tail (.here (.or _ _))
  have hcompile : compile (some "time") e = .ok r := rfl
  have hcompile' : compile (some "time") e' = .ok r' := rfl
  obtain ⟨hfilter, _, husage, _⟩ :=
    (compile_swapped (some "time") e e' hswapped).2 r r' hcompile hcompile'
  exact ⟨hswapped, hcompile, hcompile', hfilter, husage⟩

end FilterQuery
