import FilterQuery.Compilation
import FilterQuery.Proofs.Operand

/-!
# Rules of the walk

A walk that succeeds does three things: it turns operands into the values they denote, it turns
operators into clauses, and it appends to the trace. Here each is stated by rules that do not
mention the trace or the order of the visit, and the walk is proved to follow them. Everything that
is proved about compiled filters goes by induction over the rules of `Emits`; no proof after this
module opens the walk again.

The skip field takes part in one rule only (`Tested`), and the trace needs no rule of its own: the
fields are those of the expression, and a dropped test leaves a clause that matches everything, from
which the record of dropped tests is read back (`Clause.dropped`).

## Main results

* `visit_value_iff` — a visit yields the value that the expression denotes, and only then a value.
* `visit_filter_iff` — a visit yields exactly the clauses that the expression emits.
* `compile_eq_ok_iff` — a compilation is the emitted clause, the fields of the expression and one
  entry for each comparison that was dropped.
-/

namespace FilterQuery

/-! ## Appending to a trace -/

namespace Trace

/-- The trace of two walks, one after the other. -/
def append (t d : Trace) : Trace :=
  ⟨t.fields ++ d.fields, t.skipped ++ d.skipped⟩

instance : Append Trace := ⟨Trace.append⟩

theorem append_empty (t : Trace) : t ++ (⟨[], []⟩ : Trace) = t := by
  show Trace.mk (t.fields ++ []) (t.skipped ++ []) = t
  rw [List.append_nil, List.append_nil]

theorem append_append_mk (t : Trace) (fields skipped fields' skipped' : List String) :
    t ++ (⟨fields, skipped⟩ : Trace) ++ (⟨fields', skipped'⟩ : Trace) =
      t ++ ⟨fields ++ fields', skipped ++ skipped'⟩ := by
  show Trace.mk (t.fields ++ fields ++ fields') (t.skipped ++ skipped ++ skipped') =
    Trace.mk (t.fields ++ (fields ++ fields')) (t.skipped ++ (skipped ++ skipped'))
  rw [List.append_assoc, List.append_assoc]

theorem append_append_fields (t : Trace) (fields fields' : List String) :
    t ++ (⟨fields, []⟩ : Trace) ++ (⟨fields', []⟩ : Trace) = t ++ ⟨fields ++ fields', []⟩ :=
  append_append_mk t fields [] fields' []

end Trace

/-! ## Steps that succeed

A step that succeeds is taken apart by equivalences, one for each way to build a step. -/

namespace Walk

section Steps

variable {α β : Type} {t t' : Trace}

theorem bind_eq_ok_iff {x : Walk α} {f : α → Walk β} {b : β} :
    (x >>= f) t = .ok (b, t') ↔ ∃ a t₁, x t = .ok (a, t₁) ∧ f a t₁ = .ok (b, t') := by
  show Except.bind (x t) (fun r => f r.1 r.2) = .ok (b, t') ↔ _
  cases x t with
  | error err => simp [Except.bind]
  | ok r =>
      constructor
      · intro h
        exact ⟨r.1, r.2, rfl, h⟩
      · intro h
        obtain ⟨a, t₁, hx, hf⟩ := h
        cases hx
        exact hf

theorem pure_eq_ok_iff {a b : α} :
    (pure a : Walk α) t = .ok (b, t') ↔ a = b ∧ t = t' := by
  show Except.ok (a, t) = .ok (b, t') ↔ _
  rw [Except.ok.injEq, Prod.mk.injEq]

theorem throw_eq_ok_iff {err : CompileError} {b : α} :
    (throw err : Walk α) t = .ok (b, t') ↔ False := by
  show Except.error err = .ok (b, t') ↔ False
  simp only [reduceCtorEq]

theorem lift_eq_ok_iff {x : Except CompileError α} {b : α} :
    (liftM x : Walk α) t = .ok (b, t') ↔ x = .ok b ∧ t = t' := by
  cases x with
  | error err =>
      show Except.error err = .ok (b, t') ↔ _
      simp only [reduceCtorEq, false_and]
  | ok a =>
      show Except.ok (a, t) = .ok (b, t') ↔ _
      rw [Except.ok.injEq, Prod.mk.injEq, Except.ok.injEq]

theorem recordField_eq_ok_iff {name : String} {u : Unit} :
    recordField name t = .ok (u, t') ↔ t ++ ⟨[name], []⟩ = t' := by
  show Except.ok ((), Trace.mk (t.fields ++ [name]) t.skipped) = .ok (u, t') ↔
    Trace.mk (t.fields ++ [name]) (t.skipped ++ []) = t'
  simp only [Except.ok.injEq, Prod.mk.injEq, true_and, List.append_nil]

theorem recordSkipped_eq_ok_iff {name : String} {u : Unit} :
    recordSkipped name t = .ok (u, t') ↔ t ++ ⟨[], [name]⟩ = t' := by
  show Except.ok ((), Trace.mk t.fields (t.skipped ++ [name])) = .ok (u, t') ↔
    Trace.mk (t.fields ++ []) (t.skipped ++ [name]) = t'
  simp only [Except.ok.injEq, Prod.mk.injEq, true_and, List.append_nil]

theorem toValue_eq_ok_iff {place : ValuePlace} {o : Outcome} {v : Value} :
    o.toValue place = .ok v ↔ o = .value v := by
  cases o <;> simp [Outcome.toValue]

theorem toFilter_eq_ok_iff {place : FilterPlace} {o : Outcome} {c : Clause} :
    o.toFilter place = .ok c ↔ o = .filter c := by
  cases o <;> simp [Outcome.toFilter]

/-- A filter operand is a visit that yields a clause. -/
theorem filterStep_eq_ok_iff {place : FilterPlace} {step : Walk Outcome} {c : Clause} :
    filterStep place step t = .ok (c, t') ↔ step t = .ok (.filter c, t') := by
  simp only [filterStep, bind_eq_ok_iff, lift_eq_ok_iff, toFilter_eq_ok_iff]
  constructor
  · intro h
    obtain ⟨o, t₁, hstep, rfl, rfl⟩ := h
    exact hstep
  · intro hstep
    exact ⟨_, _, hstep, rfl, rfl⟩

/-- A value operand is a visit that yields a value. -/
theorem valueStep_eq_ok_iff {place : ValuePlace} {step : Walk Outcome} {f : Value → Walk β}
    {b : β} :
    (step >>= fun o => liftM (o.toValue place) >>= f) t = .ok (b, t') ↔
      ∃ v t₁, step t = .ok (.value v, t₁) ∧ f v t₁ = .ok (b, t') := by
  simp only [bind_eq_ok_iff, lift_eq_ok_iff, toValue_eq_ok_iff]
  constructor
  · intro h
    obtain ⟨o, t₁, hstep, v, _, ⟨rfl, rfl⟩, hf⟩ := h
    exact ⟨v, _, hstep, hf⟩
  · intro h
    obtain ⟨v, t₁, hstep, hf⟩ := h
    exact ⟨_, _, hstep, v, _, ⟨rfl, rfl⟩, hf⟩

/-- A field operand is a visit that yields a string. -/
theorem fieldName_eq_ok_iff {operator : BinaryOperator} {step : Walk Outcome} {name : String} :
    fieldName operator step t = .ok (name, t') ↔ step t = .ok (.value (.string name), t') := by
  rw [fieldName, valueStep_eq_ok_iff]
  constructor
  · intro h
    obtain ⟨v, t₁, hstep, hv⟩ := h
    cases v with
    | string s =>
        obtain ⟨rfl, rfl⟩ := pure_eq_ok_iff.1 hv
        exact hstep
    | _ => exact (throw_eq_ok_iff.1 hv).elim
  · intro hstep
    exact ⟨_, _, hstep, pure_eq_ok_iff.2 ⟨rfl, rfl⟩⟩

/-- The operands of a test are visited one after the other, the field first. -/
theorem operands_eq_ok_iff {operator : BinaryOperator} {field value : Walk Outcome}
    {name : String} {v : Value} :
    operands operator field value t = .ok ((name, v), t') ↔
      ∃ t₁, field t = .ok (.value (.string name), t₁) ∧ value t₁ = .ok (.value v, t') := by
  rw [operands, bind_eq_ok_iff]
  simp only [fieldName_eq_ok_iff, valueStep_eq_ok_iff, pure_eq_ok_iff, Prod.mk.injEq]
  constructor
  · intro h
    obtain ⟨_, t₁, hfield, _, _, hvalue, ⟨rfl, rfl⟩, rfl⟩ := h
    exact ⟨t₁, hfield, hvalue⟩
  · intro h
    obtain ⟨t₁, hfield, hvalue⟩ := h
    exact ⟨name, t₁, hfield, v, t', hvalue, ⟨rfl, rfl⟩, rfl⟩

/-- A test on the skip field is dropped and recorded, and any other one is left as it is. -/
theorem unlessSkipped_eq_ok_iff {skip? : Option String} {field : String}
    {clause : Except CompileError Clause} {c : Clause} :
    unlessSkipped skip? field clause t = .ok (c, t') ↔
      (skip? = some field ∧ .matchAll = c ∧ t ++ ⟨[], [field]⟩ = t') ∨
        (skip? ≠ some field ∧ clause = .ok c ∧ t = t') := by
  unfold unlessSkipped
  by_cases hskip : skip? = some field
  · rw [if_pos hskip, bind_eq_ok_iff]
    simp only [recordSkipped_eq_ok_iff, pure_eq_ok_iff, hskip, true_and, ne_eq,
      not_true_eq_false, false_and, or_false]
    constructor
    · intro h
      obtain ⟨_, t₁, rfl, hc, ht⟩ := h
      exact ⟨hc, ht⟩
    · intro h
      exact ⟨(), _, rfl, h⟩
  · rw [if_neg hskip, lift_eq_ok_iff]
    simp only [hskip, false_and, ne_eq, not_false_eq_true, true_and, false_or]

end Steps

end Walk

/-! ## Clauses of a test

A test asks one field about one value, once its operands are resolved. -/

/-- Whether a term or a range can hold the value: null and arrays are excluded. -/
def Value.isScalar : Value → Bool
  | .null => false
  | .array _ => false
  | _ => true

namespace BinaryOperator

/-- Whether the operator is a test, and not a combination of filters. -/
def isTest : BinaryOperator → Bool
  | .and => false
  | .or => false
  | _ => true

/-- Whether the operator gives way to the skip field. Wildcard matches never do. -/
def skippable : BinaryOperator → Bool
  | .compare _ => true
  | .among => true
  | _ => false

end BinaryOperator

/-- The clause of a test with its field on the left. -/
inductive TestClause : BinaryOperator → String → Value → Clause → Prop
  | term {f v} : v.isScalar = true → TestClause (.compare .equal) f v (.term f v)
  | missing {f} : TestClause (.compare .equal) f .null (.missing f)
  | notTerm {f v} : v.isScalar = true → TestClause (.compare .notEqual) f v (.not (.term f v))
  | notMissing {f} : TestClause (.compare .notEqual) f .null (.not (.missing f))
  | range {f v b} : v.isScalar = true → TestClause (.compare (.within b)) f v (.range f b v)
  | wildcard {f p} : TestClause .like f (.string p) (.wildcard f p)
  | notWildcard {f p} : TestClause .unlike f (.string p) (.not (.wildcard f p))
  | terms {f vs} : TestClause .among f (.array vs) (.terms f vs)

/-- The clause of a test under a skip field: a test that names it matches everything, also when it
would be in error otherwise. -/
inductive Tested (skip? : Option String) (op : BinaryOperator) (f : String) (v : Value) :
    Clause → Prop
  | kept {c} : (op.skippable = true → skip? ≠ some f) → TestClause op f v c →
      Tested skip? op f v c
  | dropped : op.skippable = true → skip? = some f → Tested skip? op f v .matchAll

/-- The operands of a test, resolved: the operator with the field on the left, the path of the field
and the value. Only a comparison can be mirrored. -/
inductive Resolves : String → Expr → Expr → BinaryOperator → String → Value → Prop
  | left {token l r op f v} : BinaryOperator.ofToken? token = some op →
      l.path? = some f → r.value? = some v → Resolves token l r op f v
  | right {token l r cmp f v} : BinaryOperator.ofToken? token = some (.compare cmp) →
      l.isFieldReference = false → r.path? = some f → l.value? = some v →
      Resolves token l r (.compare cmp.mirror) f v

/-- The clause that a filter expression emits. -/
inductive Emits (skip? : Option String) : Expr → Clause → Prop
  | fulltext (text : String) :
      Emits skip? (.fulltext text) (.matchPhrase Clause.allFields text)
  | filter {e c} : Emits skip? e c → Emits skip? (.filter e) c
  | term {e c} : Emits skip? e c → Emits skip? (.term e) c
  | not {token e c} : UnaryOperator.ofToken? token = some .not → Emits skip? e c →
      Emits skip? (.unary token e) (.bool .mustNot [c])
  | and {token l r a b} : BinaryOperator.ofToken? token = some .and →
      Emits skip? l a → Emits skip? r b → Emits skip? (.binary token l r) (.bool .must [a, b])
  | or {token l r a b} : BinaryOperator.ofToken? token = some .or →
      Emits skip? l a → Emits skip? r b → Emits skip? (.binary token l r) (.bool .should [a, b])
  | test {token l r op f v c} : Resolves token l r op f v → Tested skip? op f v c →
      Emits skip? (.binary token l r) c

theorem TestClause.isTest {op : BinaryOperator} {f : String} {v : Value} {c : Clause}
    (h : TestClause op f v c) : op.isTest = true := by
  cases h <;> rfl

theorem Tested.isTest {skip? : Option String} {op : BinaryOperator} {f : String} {v : Value}
    {c : Clause} (h : Tested skip? op f v c) : op.isTest = true := by
  cases h with
  | kept _ htest => exact htest.isTest
  | dropped hop _ =>
      cases op with
      | and => cases hop
      | or => cases hop
      | _ => rfl

/-! ## The record of dropped tests -/

namespace Clause

/-- Induction over clauses, with one hypothesis for all children of a boolean clause. -/
@[elab_as_elim, induction_eliminator]
theorem induct {motive : Clause → Prop}
    (matchAll : motive .matchAll)
    (bool : ∀ occur clauses, (∀ c ∈ clauses, motive c) → motive (.bool occur clauses))
    (not : ∀ clause, motive clause → motive (.not clause))
    (term : ∀ field value, motive (.term field value))
    (terms : ∀ field values, motive (.terms field values))
    (range : ∀ field bound value, motive (.range field bound value))
    (missing : ∀ field, motive (.missing field))
    (wildcard : ∀ field pattern, motive (.wildcard field pattern))
    (matchPhrase : ∀ field text, motive (.matchPhrase field text))
    (c : Clause) : motive c :=
  @Clause.rec motive (fun cs => ∀ c ∈ cs, motive c)
    matchAll bool not term terms range missing wildcard matchPhrase
    (fun _ h => absurd h List.not_mem_nil)
    (fun _ _ head tail => List.forall_mem_cons.2 ⟨head, tail⟩) c

mutual

/-- The number of places in a clause that match everything. -/
def matchAllCount : Clause → Nat
  | .matchAll => 1
  | .bool _ clauses => listMatchAllCount clauses
  | .not clause => clause.matchAllCount
  | _ => 0

/-- The number of places in a list of clauses that match everything. -/
def listMatchAllCount : List Clause → Nat
  | [] => 0
  | clause :: rest => clause.matchAllCount + listMatchAllCount rest

end

/-- The record of the tests that were dropped from a clause: the skip field, once for each. -/
def dropped (skip? : Option String) (c : Clause) : List String :=
  skip?.elim [] (List.replicate c.matchAllCount)

theorem dropped_pair (skip? : Option String) (occur : Occur) (a b : Clause) :
    (Clause.bool occur [a, b]).dropped skip? = a.dropped skip? ++ b.dropped skip? := by
  cases skip? with
  | none => rfl
  | some s => simp [dropped, matchAllCount, listMatchAllCount, List.replicate_append_replicate]

theorem dropped_single (skip? : Option String) (occur : Occur) (a : Clause) :
    (Clause.bool occur [a]).dropped skip? = a.dropped skip? := by
  simp [dropped, matchAllCount, listMatchAllCount]

theorem dropped_of_matchAllCount_eq_zero {skip? : Option String} {c : Clause}
    (h : c.matchAllCount = 0) : c.dropped skip? = [] := by
  cases skip? with
  | none => rfl
  | some s =>
      show List.replicate c.matchAllCount s = []
      rw [h, List.replicate_zero]

end Clause

/-- A test that is kept leaves no place that matches everything. -/
theorem TestClause.matchAllCount_eq_zero {op : BinaryOperator} {f : String} {v : Value}
    {c : Clause} (h : TestClause op f v c) : c.matchAllCount = 0 := by
  cases h <;> simp [Clause.matchAllCount]

/-- A test that is kept adds nothing to the trace. -/
theorem TestClause.append_dropped {op : BinaryOperator} {f : String} {v : Value} {c : Clause}
    (h : TestClause op f v c) (skip? : Option String) (t : Trace) :
    t ++ (⟨[], c.dropped skip?⟩ : Trace) = t := by
  rw [Clause.dropped_of_matchAllCount_eq_zero h.matchAllCount_eq_zero, Trace.append_empty]

/-! ## The walk turns tests into the clauses of the rules -/

namespace Walk

theorem comparisonClause_eq_ok_iff {cmp : Comparison} {f : String} {v : Value} {c : Clause} :
    comparisonClause cmp f v = .ok c ↔ TestClause (.compare cmp) f v c := by
  constructor
  · intro h
    rcases cmp with _ | _ | b <;> cases v <;> cases h <;> constructor <;> rfl
  · intro h
    cases h with
    | term hv | notTerm hv | range hv =>
        cases v <;> simp_all [Value.isScalar, Value.isNull, comparisonClause, equalityClause]
    | missing => rfl
    | notMissing => rfl

theorem likeClause_eq_ok_iff {f : String} {v : Value} {c : Clause} :
    likeClause f v = .ok c ↔ TestClause .like f v c := by
  constructor
  · intro h
    cases v <;> cases h
    exact .wildcard
  · intro h
    cases h
    rfl

theorem unlikeClause_eq_ok_iff {f : String} {v : Value} {c : Clause} :
    unlikeClause f v = .ok c ↔ TestClause .unlike f v c := by
  constructor
  · intro h
    cases v <;> cases h
    exact .notWildcard
  · intro h
    cases h
    rfl

theorem amongClause_eq_ok_iff {f : String} {v : Value} {c : Clause} :
    amongClause f v = .ok c ↔ TestClause .among f v c := by
  constructor
  · intro h
    cases v <;> cases h
    exact .terms
  · intro h
    cases h
    rfl

section Visit

variable {skip? : Option String} {l r : Expr} {t t' : Trace} {c : Clause}

/-- A test that may be dropped is turned into the clause of the rules, and the drop is recorded. -/
theorem unlessSkipped_tested_iff {op : BinaryOperator} {f : String} {v : Value}
    {clause : Except CompileError Clause} (hop : op.skippable = true)
    (hclause : ∀ c, clause = .ok c ↔ TestClause op f v c) :
    unlessSkipped skip? f clause t = .ok (c, t') ↔
      Tested skip? op f v c ∧ t ++ ⟨[], c.dropped skip?⟩ = t' := by
  rw [unlessSkipped_eq_ok_iff]
  constructor
  · intro h
    rcases h with ⟨hskip, rfl, rfl⟩ | ⟨hskip, hc, rfl⟩
    · subst hskip
      exact ⟨.dropped hop rfl, rfl⟩
    · have htest := (hclause c).1 hc
      exact ⟨.kept (fun _ => hskip) htest, htest.append_dropped skip? t⟩
  · intro h
    obtain ⟨htested, rfl⟩ := h
    cases htested with
    | kept hskip htest =>
        exact .inr ⟨hskip hop, (hclause c).2 htest, (htest.append_dropped skip? t).symm⟩
    | dropped _ hskip =>
        subst hskip
        exact .inl ⟨rfl, rfl, rfl⟩

/-- A wildcard match is turned into its clause whatever the skip field is. -/
theorem lift_tested_iff {op : BinaryOperator} {f : String} {v : Value}
    {clause : Except CompileError Clause} (hop : op.skippable = false)
    (hclause : ∀ c, clause = .ok c ↔ TestClause op f v c) :
    (liftM clause : Walk Clause) t = .ok (c, t') ↔
      Tested skip? op f v c ∧ t ++ ⟨[], c.dropped skip?⟩ = t' := by
  have hnever : op.skippable ≠ true := by simp [hop]
  rw [lift_eq_ok_iff, hclause]
  constructor
  · intro h
    obtain ⟨htest, rfl⟩ := h
    exact ⟨.kept (fun hskippable => absurd hskippable hnever) htest,
      htest.append_dropped skip? t⟩
  · intro h
    obtain ⟨htested, rfl⟩ := h
    cases htested with
    | kept _ htest => exact ⟨htest, (htest.append_dropped skip? t).symm⟩
    | dropped hskippable _ => exact absurd hskippable hnever

/-- The operands of a test are visited, and then the test is turned into its clause. -/
theorem operands_tested_iff {operator op : BinaryOperator} {field value : Walk Outcome}
    {finish : String × Value → Walk Clause}
    (hfinish : ∀ f v t₂, finish (f, v) t₂ = .ok (c, t') ↔
      Tested skip? op f v c ∧ t₂ ++ ⟨[], c.dropped skip?⟩ = t') :
    (operands operator field value >>= finish) t = .ok (c, t') ↔
      ∃ f v t₁ t₂, field t = .ok (.value (.string f), t₁) ∧ value t₁ = .ok (.value v, t₂) ∧
        Tested skip? op f v c ∧ t₂ ++ ⟨[], c.dropped skip?⟩ = t' := by
  rw [bind_eq_ok_iff]
  constructor
  · intro h
    obtain ⟨⟨f, v⟩, t₂, hoperands, htest⟩ := h
    obtain ⟨t₁, hfield, hvalue⟩ := operands_eq_ok_iff.1 hoperands
    exact ⟨f, v, t₁, t₂, hfield, hvalue, (hfinish f v t₂).1 htest⟩
  · intro h
    obtain ⟨f, v, t₁, t₂, hfield, hvalue, htest⟩ := h
    exact ⟨(f, v), t₂, operands_eq_ok_iff.2 ⟨t₁, hfield, hvalue⟩, (hfinish f v t₂).2 htest⟩

theorem compareStep_eq_ok_iff {cmp : Comparison} {field value : Walk Outcome} :
    compareStep skip? cmp field value t = .ok (c, t') ↔
      ∃ f v t₁ t₂, field t = .ok (.value (.string f), t₁) ∧ value t₁ = .ok (.value v, t₂) ∧
        Tested skip? (.compare cmp) f v c ∧ t₂ ++ ⟨[], c.dropped skip?⟩ = t' :=
  operands_tested_iff fun _ _ _ =>
    unlessSkipped_tested_iff rfl fun _ => comparisonClause_eq_ok_iff

variable {visitLeft visitRight : Walk Outcome}

/-- A test with the field on its left visits its operands as they stand. -/
theorem binaryStep_left_iff {op : BinaryOperator} (hop : op.isTest = true)
    (hl : l.isFieldReference = true) :
    binaryStep skip? op l r visitLeft visitRight t = .ok (c, t') ↔
      ∃ f v t₁ t₂, visitLeft t = .ok (.value (.string f), t₁) ∧
        visitRight t₁ = .ok (.value v, t₂) ∧
        Tested skip? op f v c ∧ t₂ ++ ⟨[], c.dropped skip?⟩ = t' := by
  cases op with
  | and => cases hop
  | or => cases hop
  | compare cmp =>
      simp only [binaryStep_compare, hl, if_true]
      exact compareStep_eq_ok_iff
  | like =>
      simp only [binaryStep, hl]
      exact operands_tested_iff fun _ _ _ => lift_tested_iff rfl fun _ => likeClause_eq_ok_iff
  | unlike =>
      simp only [binaryStep, hl]
      exact operands_tested_iff fun _ _ _ => lift_tested_iff rfl fun _ => unlikeClause_eq_ok_iff
  | among =>
      simp only [binaryStep, hl]
      exact operands_tested_iff fun _ _ _ =>
        unlessSkipped_tested_iff rfl fun _ => amongClause_eq_ok_iff

/-- A test without a field on its left is a comparison with the field on its right, which visits the
right operand first. -/
theorem binaryStep_right_iff {op : BinaryOperator} (hop : op.isTest = true)
    (hl : l.isFieldReference = false) :
    binaryStep skip? op l r visitLeft visitRight t = .ok (c, t') ↔
      ∃ cmp, op = .compare cmp ∧ r.isFieldReference = true ∧
        ∃ f v t₁ t₂, visitRight t = .ok (.value (.string f), t₁) ∧
          visitLeft t₁ = .ok (.value v, t₂) ∧
          Tested skip? (.compare cmp.mirror) f v c ∧ t₂ ++ ⟨[], c.dropped skip?⟩ = t' := by
  cases op with
  | and => cases hop
  | or => cases hop
  | compare cmp =>
      cases hr : r.isFieldReference with
      | true => simp [binaryStep_compare, hl, hr, compareStep_eq_ok_iff]
      | false => simp [binaryStep_compare, hl, hr, throw_eq_ok_iff]
  | _ => simp [binaryStep, hl, bind_eq_ok_iff, throw_eq_ok_iff]

/-- Two filters are visited from left to right and combined. -/
theorem pairStep_eq_ok_iff {place : FilterPlace} {occur : Occur} :
    (do
      let a ← filterStep place visitLeft
      let b ← filterStep place visitRight
      return Clause.bool occur [a, b] : Walk Clause) t = .ok (c, t') ↔
      ∃ a b t₁, visitLeft t = .ok (.filter a, t₁) ∧ visitRight t₁ = .ok (.filter b, t') ∧
        .bool occur [a, b] = c := by
  simp only [bind_eq_ok_iff, filterStep_eq_ok_iff, pure_eq_ok_iff]
  constructor
  · intro h
    obtain ⟨a, t₁, hl, b, _, hr, rfl, rfl⟩ := h
    exact ⟨a, b, t₁, hl, hr, rfl⟩
  · intro h
    obtain ⟨a, b, t₁, hl, hr, rfl⟩ := h
    exact ⟨a, t₁, hl, b, _, hr, rfl, rfl⟩

/-! ## Visits -/

/-- A visit of a negation yields the negation of a filter, if anything. -/
theorem visit_unary_eq_ok_iff {token : String} {argument : Expr} {o : Outcome} :
    visit skip? (.unary token argument) t = .ok (o, t') ↔
      ∃ a, UnaryOperator.ofToken? token = some .not ∧
        visit skip? argument t = .ok (.filter a, t') ∧ .filter (.bool .mustNot [a]) = o := by
  rw [visit]
  cases UnaryOperator.ofToken? token with
  | none => simp only [throw_eq_ok_iff, reduceCtorEq, false_and, exists_false]
  | some op =>
      simp only [bind_eq_ok_iff, filterStep_eq_ok_iff, pure_eq_ok_iff, true_and]
      constructor
      · intro h
        obtain ⟨a, _, ha, ho, rfl⟩ := h
        exact ⟨a, ha, ho⟩
      · intro h
        obtain ⟨a, ha, ho⟩ := h
        exact ⟨a, _, ha, ho, rfl⟩

/-- A visit of an operator with two operands yields the clause of its step, if anything. -/
theorem visit_binary_eq_ok_iff {token : String} {o : Outcome} :
    visit skip? (.binary token l r) t = .ok (o, t') ↔
      ∃ op c, BinaryOperator.ofToken? token = some op ∧
        binaryStep skip? op l r (visit skip? l) (visit skip? r) t = .ok (c, t') ∧
          .filter c = o := by
  rw [visit]
  cases BinaryOperator.ofToken? token with
  | none => simp only [throw_eq_ok_iff, reduceCtorEq, false_and, exists_false]
  | some op =>
      simp only [bind_eq_ok_iff, pure_eq_ok_iff, Option.some.injEq]
      constructor
      · intro h
        obtain ⟨c, _, hc, ho, rfl⟩ := h
        exact ⟨op, c, rfl, hc, ho⟩
      · intro h
        obtain ⟨_, c, rfl, hc, ho⟩ := h
        exact ⟨c, _, hc, ho, rfl⟩

/-- The elements of an array are visited in their order, if each of them is visited as a value. -/
theorem visitElements_eq_ok_iff {elements : List Expr}
    (helements : ∀ e ∈ elements, ∀ (t t' : Trace) (v : Value),
      visit skip? e t = .ok (.value v, t') ↔ e.value? = some v ∧ t ++ ⟨e.fieldNames, []⟩ = t') :
    ∀ (t t' : Trace) (vs : List Value),
      visitElements skip? elements t = .ok (vs, t') ↔
        Expr.values? elements = some vs ∧ t ++ ⟨Expr.listFieldNames elements, []⟩ = t' := by
  induction elements with
  | nil =>
      intro t t' vs
      rw [visitElements, pure_eq_ok_iff, Expr.values?, Expr.listFieldNames, Trace.append_empty,
        Option.some.injEq]
  | cons e rest ih =>
      intro t t' vs
      have hhead := helements e List.mem_cons_self
      have htail := ih fun e' he' => helements e' (List.mem_cons_of_mem _ he')
      rw [visitElements, valueStep_eq_ok_iff]
      simp only [bind_eq_ok_iff, pure_eq_ok_iff, hhead, htail, Expr.values?, Expr.listFieldNames,
        Option.bind_eq_some_iff, Option.map_eq_some_iff]
      constructor
      · intro h
        obtain ⟨v, _, ⟨hv, rfl⟩, vs', _, ⟨hvs, rfl⟩, rfl, rfl⟩ := h
        exact ⟨⟨v, hv, vs', hvs, rfl⟩, (Trace.append_append_fields ..).symm⟩
      · intro h
        obtain ⟨⟨v, hv, vs', hvs, rfl⟩, rfl⟩ := h
        exact ⟨v, _, ⟨hv, rfl⟩, vs', _, ⟨hvs, rfl⟩, rfl, Trace.append_append_fields ..⟩

/-- **Operands.** A visit yields a value exactly if the expression denotes it; it records the fields
of the expression and drops nothing. -/
theorem visit_value_iff (e : Expr) : ∀ (t t' : Trace) (v : Value),
    visit skip? e t = .ok (.value v, t') ↔
      e.value? = some v ∧ t ++ ⟨e.fieldNames, []⟩ = t' := by
  induction e with
  | null | boolean | number | string | moment | duration | fulltext =>
      intro t t' v
      simp [visit, pure_eq_ok_iff, Expr.value?, Expr.fieldNames, Trace.append_empty]
  | filter ast ih | term ast ih => exact ih
  | field name =>
      intro t t' v
      simp only [visit, bind_eq_ok_iff, recordField_eq_ok_iff, pure_eq_ok_iff, Expr.value?,
        Expr.fieldNames, Outcome.value.injEq, Option.some.injEq]
      constructor
      · intro h
        obtain ⟨_, t₁, rfl, hv, ht⟩ := h
        exact ⟨hv, ht⟩
      · intro h
        exact ⟨(), _, rfl, h⟩
  | array elements ih =>
      intro t t' v
      simp only [visit, bind_eq_ok_iff, visitElements_eq_ok_iff ih, pure_eq_ok_iff, Expr.value?,
        Expr.fieldNames, Outcome.value.injEq, Option.map_eq_some_iff]
      constructor
      · intro h
        obtain ⟨vs, _, ⟨hvs, rfl⟩, hv, ht⟩ := h
        exact ⟨⟨vs, hvs, hv⟩, ht⟩
      · intro h
        obtain ⟨⟨vs, hvs, hv⟩, ht⟩ := h
        exact ⟨vs, _, ⟨hvs, rfl⟩, hv, ht⟩
  | member object property iho ihp =>
      intro t t' v
      simp only [visit, valueStep_eq_ok_iff, pure_eq_ok_iff, iho, ihp, Expr.value?,
        Expr.fieldNames, Outcome.value.injEq, Option.bind_eq_some_iff, Option.map_eq_some_iff]
      constructor
      · intro h
        obtain ⟨a, _, ⟨ha, rfl⟩, b, _, ⟨hb, rfl⟩, hv, rfl⟩ := h
        exact ⟨⟨a, ha, b, hb, hv⟩, (Trace.append_append_fields ..).symm⟩
      · intro h
        obtain ⟨⟨a, ha, b, hb, hv⟩, rfl⟩ := h
        exact ⟨a, _, ⟨ha, rfl⟩, b, _, ⟨hb, rfl⟩, hv, Trace.append_append_fields ..⟩
  | unary token argument _ =>
      -- An operator yields a filter, if anything, and denotes no value.
      intro t t' v
      simp only [visit_unary_eq_ok_iff, Expr.value?, reduceCtorEq, and_false, exists_false,
        false_and]
  | binary token l r _ _ =>
      intro t t' v
      simp only [visit_binary_eq_ok_iff, Expr.value?, reduceCtorEq, and_false, exists_false,
        false_and]

theorem visit_of_value? {e : Expr} {v : Value} (h : e.value? = some v) (t : Trace) :
    visit skip? e t = .ok (.value v, t ++ ⟨e.fieldNames, []⟩) :=
  (visit_value_iff e t _ v).2 ⟨h, rfl⟩

/-- The walk follows the rules on a test. -/
theorem visit_of_resolves {token : String} {op : BinaryOperator} {f : String} {v : Value}
    (hresolves : Resolves token l r op f v) (htested : Tested skip? op f v c) (t : Trace) :
    visit skip? (.binary token l r) t =
      .ok (.filter c, t ++ ⟨(Expr.binary token l r).fieldNames, c.dropped skip?⟩) := by
  rw [visit_binary_eq_ok_iff]
  cases hresolves with
  | left htoken hl hr =>
      obtain ⟨href, hlv⟩ := Expr.path?_eq_some_iff.1 hl
      refine ⟨_, c, htoken, (binaryStep_left_iff htested.isTest href).2
        ⟨f, v, _, _, visit_of_value? hlv t, visit_of_value? hr _, htested, ?_⟩, rfl⟩
      rw [Expr.fieldNames_binary_left href, Trace.append_append_fields, Trace.append_append_mk,
        List.append_nil, List.nil_append]
  | right htoken href hr hl =>
      obtain ⟨hrref, hrv⟩ := Expr.path?_eq_some_iff.1 hr
      refine ⟨_, c, htoken, (binaryStep_right_iff rfl href).2
        ⟨_, rfl, hrref, f, v, _, _, visit_of_value? hrv t, visit_of_value? hl _, htested, ?_⟩, rfl⟩
      rw [Expr.fieldNames_binary_right htoken href, Trace.append_append_fields,
        Trace.append_append_mk, List.append_nil, List.nil_append]

/-- The walk follows the rules: it yields the clause that an expression emits, and it records the
fields of the expression and the tests that were dropped from the clause. -/
theorem visit_of_emits {e : Expr} (h : Emits skip? e c) : ∀ t : Trace,
    visit skip? e t = .ok (.filter c, t ++ ⟨e.fieldNames, c.dropped skip?⟩) := by
  induction h with
  | fulltext text =>
      intro t
      have hdropped : (Clause.matchPhrase Clause.allFields text).dropped skip? = [] :=
        Clause.dropped_of_matchAllCount_eq_zero rfl
      rw [hdropped, show (Expr.fulltext text).fieldNames = [] from rfl, Trace.append_empty]
      rfl
  | filter _ ih | term _ ih => exact ih
  | not htoken _ ih =>
      intro t
      rw [visit_unary_eq_ok_iff, Clause.dropped_single]
      exact ⟨_, htoken, ih t, rfl⟩
  | and htoken _ _ ihl ihr | or htoken _ _ ihl ihr =>
      intro t
      rw [visit_binary_eq_ok_iff, Clause.dropped_pair, Expr.fieldNames, htoken,
        ← Trace.append_append_mk]
      exact ⟨_, _, rfl, pairStep_eq_ok_iff.2 ⟨_, _, _, ihl t, ihr _, rfl⟩, rfl⟩
  | test hresolves htested => exact visit_of_resolves hresolves htested

/-- A test that the walk turns into a clause is resolved by the rules. -/
theorem emits_of_testStep {token : String} {op : BinaryOperator}
    (htoken : BinaryOperator.ofToken? token = some op) (hop : op.isTest = true)
    (h : binaryStep skip? op l r (visit skip? l) (visit skip? r) t = .ok (c, t')) :
    Emits skip? (.binary token l r) c := by
  cases href : l.isFieldReference with
  | true =>
      obtain ⟨f, v, t₁, t₂, hf, hv, htested, _⟩ := (binaryStep_left_iff hop href).1 h
      have hpath := Expr.path?_eq_some_iff.2 ⟨href, ((visit_value_iff l _ _ _).1 hf).1⟩
      exact .test (.left htoken hpath ((visit_value_iff r _ _ _).1 hv).1) htested
  | false =>
      obtain ⟨cmp, rfl, hrref, f, v, t₁, t₂, hf, hv, htested, _⟩ :=
        (binaryStep_right_iff hop href).1 h
      have hpath := Expr.path?_eq_some_iff.2 ⟨hrref, ((visit_value_iff r _ _ _).1 hf).1⟩
      exact .test (.right htoken href hpath ((visit_value_iff l _ _ _).1 hv).1) htested

/-- The walk yields no clause but those of the rules. -/
theorem emits_of_visit (e : Expr) : ∀ (t t' : Trace) (c : Clause),
    visit skip? e t = .ok (.filter c, t') → Emits skip? e c := by
  induction e with
  | null | boolean | number | string | moment | duration =>
      intro t t' c h
      cases (pure_eq_ok_iff.1 h).1
  | fulltext text =>
      intro t t' c h
      cases (pure_eq_ok_iff.1 h).1
      exact .fulltext text
  | filter ast ih =>
      intro t t' c h
      exact .filter (ih t t' c h)
  | term ast ih =>
      intro t t' c h
      exact .term (ih t t' c h)
  | field name =>
      intro t t' c h
      obtain ⟨_, _, _, h⟩ := bind_eq_ok_iff.1 h
      cases (pure_eq_ok_iff.1 h).1
  | array elements _ =>
      intro t t' c h
      obtain ⟨_, _, _, h⟩ := bind_eq_ok_iff.1 h
      cases (pure_eq_ok_iff.1 h).1
  | member object property _ _ =>
      intro t t' c h
      obtain ⟨_, _, _, h⟩ := valueStep_eq_ok_iff.1 h
      obtain ⟨_, _, _, h⟩ := valueStep_eq_ok_iff.1 h
      cases (pure_eq_ok_iff.1 h).1
  | unary token argument ih =>
      intro t t' c h
      obtain ⟨a, htoken, ha, hc⟩ := visit_unary_eq_ok_iff.1 h
      cases hc
      exact .not htoken (ih t t' a ha)
  | binary token l r ihl ihr =>
      intro t t' c h
      obtain ⟨op, _, htoken, h, hc⟩ := visit_binary_eq_ok_iff.1 h
      cases hc
      cases op with
      | and =>
          obtain ⟨a, b, t₁, ha, hb, rfl⟩ := pairStep_eq_ok_iff.1 h
          exact .and htoken (ihl t t₁ a ha) (ihr t₁ t' b hb)
      | or =>
          obtain ⟨a, b, t₁, ha, hb, rfl⟩ := pairStep_eq_ok_iff.1 h
          exact .or htoken (ihl t t₁ a ha) (ihr t₁ t' b hb)
      | _ => exact emits_of_testStep htoken rfl h

/-- **Filters.** A visit yields a clause exactly if the expression emits it; it records the fields of
the expression and the tests that were dropped. -/
theorem visit_filter_iff {e : Expr} :
    visit skip? e t = .ok (.filter c, t') ↔
      Emits skip? e c ∧ t ++ ⟨e.fieldNames, c.dropped skip?⟩ = t' := by
  constructor
  · intro h
    have hemits := emits_of_visit e t t' c h
    rw [visit_of_emits hemits, Except.ok.injEq, Prod.mk.injEq] at h
    exact ⟨hemits, h.2⟩
  · intro h
    obtain ⟨hemits, rfl⟩ := h
    exact visit_of_emits hemits t

end Visit

end Walk

/-- **Compilations.** An expression compiles to the clause that it emits, with its fields and the
tests that were dropped. -/
theorem compile_eq_ok_iff {skip? : Option String} {e : Expr} {r : Compilation} :
    compile skip? e = .ok r ↔
      Emits skip? e r.filter ∧ e.fieldNames = r.fields ∧ r.filter.dropped skip? = r.skipped := by
  unfold compile
  constructor
  · intro h
    cases hvisit : Walk.visit skip? e ⟨[], []⟩ with
    | error err =>
        rw [hvisit] at h
        cases h
    | ok p =>
        obtain ⟨o, t⟩ := p
        rw [hvisit] at h
        cases o with
        | value v => cases h
        | filter c =>
            cases h
            obtain ⟨hemits, rfl⟩ := Walk.visit_filter_iff.1 hvisit
            exact ⟨hemits, rfl, rfl⟩
  · intro h
    obtain ⟨hemits, hfields, hskipped⟩ := h
    rw [Walk.visit_of_emits hemits, hfields, hskipped]
    rfl

end FilterQuery
