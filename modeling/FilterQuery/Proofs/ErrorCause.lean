import FilterQuery.Proofs.FieldRecord
import FilterQuery.Proofs.Grammar

/-!
# The causes of compile errors

A walk that fails reports one error, and it may do so after it went through much of the tree. The error
names an operator or a place but not a node; that there is a node to blame is what this module proves.
`Fault` lists, for each kind of error, the nodes that are in fault by themselves, and by
`compile_error_cause` every error of a compilation is the fault of a node of the tree, or of the root
where that has to be a filter.

The list does not speak of the walk, and so it shows which branches of the walk are never taken: no node
is in fault because its operator lacks a mirror or a bound, and none because a field reference is
visited as something other than a name.

## Main results

* `Walk.exists_name_of_visit` — a field reference is visited as a name, if it is visited at all.
* `Walk.hasFault_of_visit` — what a visit reports is the fault of a node of the expression.
* `compile_error_cause` — the same of a compilation.
-/

namespace FilterQuery

/-! ## Nodes in fault -/

namespace Value

/-- Whether the value is a string. -/
def isString : Value → Bool
  | .string _ => true
  | _ => false

/-- Whether the value is an array. -/
def isArray : Value → Bool
  | .array _ => true
  | _ => false

end Value

/-- Whether the operator is a test that takes its field on the left only. -/
def BinaryOperator.isLeftOnly : BinaryOperator → Bool
  | .like => true
  | .unlike => true
  | .among => true
  | _ => false

/-- A test with its field on the left: the operator, the field operand and the other one. A comparison
without a field reference on its left is turned around. -/
inductive Oriented : String → Expr → Expr → BinaryOperator → Expr → Expr → Prop
  | left (op : BinaryOperator) {l r} : op.isTest = true → l.isFieldReference = true →
      Oriented op.symbol l r op l r
  | right (cmp : Comparison) {l r} : l.isFieldReference = false → r.isFieldReference = true →
      Oriented cmp.symbol l r (.compare cmp.mirror) r l

/-- Why a test of a field against a value has no clause. -/
inductive TestError : BinaryOperator → String → Value → CompileError → Prop
  | array (cmp : Comparison) {f vs} : TestError (.compare cmp) f (.array vs) (.expectedScalar cmp)
  | null (b : Bound) {f} : TestError (.compare (.within b)) f .null (.nullComparison b f)
  | likePattern {f v} : v.isString = false → TestError .like f v (.expectedPattern .like)
  | unlikePattern {f v} : v.isString = false → TestError .unlike f v (.expectedPattern .unlike)
  | elements {f v} : v.isArray = false → TestError .among f v (.expectedArray .among)

/-- The nodes that are in fault by themselves, each with the error that reports it. -/
inductive Fault (skip? : Option String) : Expr → CompileError → Prop
  | binaryToken {token l r} : (∀ op : BinaryOperator, op.symbol ≠ token) →
      Fault skip? (.binary token l r) (.invalidOperator token)
  | unaryToken {token argument} : token ≠ "NOT" →
      Fault skip? (.unary token argument) (.invalidOperator token)
  | noField (cmp : Comparison) {l r} : l.isFieldReference = false → r.isFieldReference = false →
      Fault skip? (.binary cmp.symbol l r) (.missingFieldOperand (.compare cmp))
  | noLeftField {op l r} : op.isLeftOnly = true → l.isFieldReference = false →
      Fault skip? (.binary op.symbol l r) (.leftFieldOperand op)
  | test {token l r op field other f v err} : Oriented token l r op field other →
      field.path? = some f → other.value? = some v → (op.skippable = true → skip? ≠ some f) →
      TestError op f v err → Fault skip? (.binary token l r) err
  | filterInTest {token l r op field other} : Oriented token l r op field other →
      other.IsFilter skip? → Fault skip? (.binary token l r) (.expectedValue (.operandOf op))
  | filterInPath {object property} : object.IsFilter skip? ∨ property.IsFilter skip? →
      Fault skip? (.member object property) (.expectedValue .memberPart)
  | filterInArray {elements element} : element ∈ elements → element.IsFilter skip? →
      Fault skip? (.array elements) (.expectedValue .arrayElement)
  | valueInNot {argument} : argument.IsValue →
      Fault skip? (.unary "NOT" argument) (.expectedFilter .operandOfNot)
  | valueInAnd {l r} : l.IsValue ∨ r.IsValue →
      Fault skip? (.binary "AND" l r) (.expectedFilter .operandOfAnd)
  | valueInOr {l r} : l.IsValue ∨ r.IsValue →
      Fault skip? (.binary "OR" l r) (.expectedFilter .operandOfOr)

/-! ## Steps that fail -/

namespace Walk

section Steps

variable {α β : Type} {t : Trace} {err : CompileError}

theorem bind_eq_error_iff {x : Walk α} {f : α → Walk β} :
    (x >>= f) t = .error err ↔
      x t = .error err ∨ ∃ a t₁, x t = .ok (a, t₁) ∧ f a t₁ = .error err := by
  show Except.bind (x t) (fun r => f r.1 r.2) = .error err ↔ _
  cases x t with
  | error err' => simp [Except.bind]
  | ok r =>
      constructor
      · intro h
        exact .inr ⟨r.1, r.2, rfl, h⟩
      · intro h
        rcases h with h | ⟨a, t₁, hx, hf⟩
        · cases h
        · cases hx
          exact hf

theorem pure_ne_error {a : α} : (pure a : Walk α) t ≠ .error err :=
  nofun

/-- A step fails as it does without what is only made of its result. -/
theorem error_of_bind_pure {x : Walk α} {f : α → β}
    (h : (x >>= fun a => pure (f a)) t = .error err) : x t = .error err := by
  rcases bind_eq_error_iff.1 h with hx | ⟨a, t₁, _, hpure⟩
  · exact hx
  · exact absurd hpure pure_ne_error

theorem throw_eq_error_iff {err' : CompileError} :
    (throw err' : Walk α) t = .error err ↔ err' = err := by
  show Except.error err' = .error err ↔ _
  rw [Except.error.injEq]

theorem lift_eq_error_iff {x : Except CompileError α} :
    (liftM x : Walk α) t = .error err ↔ x = .error err := by
  cases x with
  | error err' =>
      show Except.error err' = .error err ↔ _
      rw [Except.error.injEq, Except.error.injEq]
  | ok a =>
      show Except.ok (a, t) = .error err ↔ _
      simp only [reduceCtorEq]

/-- A filter operand fails with its visit, or because the visit yields a value. -/
theorem filterStep_eq_error_iff {place : FilterPlace} {step : Walk Outcome} :
    filterStep place step t = .error err ↔
      step t = .error err ∨
        (∃ v t₁, step t = .ok (.value v, t₁)) ∧ .expectedFilter place = err := by
  rw [filterStep, bind_eq_error_iff]
  refine or_congr_right ?_
  constructor
  · intro h
    obtain ⟨o, t₁, hstep, hfilter⟩ := h
    rw [lift_eq_error_iff] at hfilter
    cases o with
    | value v =>
        cases hfilter
        exact ⟨⟨v, t₁, hstep⟩, rfl⟩
    | filter c => cases hfilter
  · intro h
    obtain ⟨⟨v, t₁, hstep⟩, rfl⟩ := h
    exact ⟨.value v, t₁, hstep, lift_eq_error_iff.2 rfl⟩

/-- A value operand fails with its visit, or because the visit yields a filter; otherwise it is what
follows that fails. -/
theorem valueStep_eq_error_iff {place : ValuePlace} {step : Walk Outcome} {f : Value → Walk β} :
    (step >>= fun o => liftM (o.toValue place) >>= f) t = .error err ↔
      step t = .error err ∨
        ((∃ c t₁, step t = .ok (.filter c, t₁)) ∧ .expectedValue place = err) ∨
        ∃ v t₁, step t = .ok (.value v, t₁) ∧ f v t₁ = .error err := by
  rw [bind_eq_error_iff]
  refine or_congr_right ?_
  simp only [bind_eq_error_iff, lift_eq_error_iff, lift_eq_ok_iff, toValue_eq_ok_iff]
  constructor
  · intro h
    obtain ⟨o, t₁, hstep, hvalue | ⟨v, t₂, ⟨rfl, rfl⟩, hf⟩⟩ := h
    · cases o with
      | value v => cases hvalue
      | filter c =>
          cases hvalue
          exact .inl ⟨⟨c, t₁, hstep⟩, rfl⟩
    · exact .inr ⟨v, _, hstep, hf⟩
  · intro h
    rcases h with ⟨⟨c, t₁, hstep⟩, rfl⟩ | ⟨v, t₁, hstep, hf⟩
    · exact ⟨.filter c, t₁, hstep, .inl rfl⟩
    · exact ⟨.value v, t₁, hstep, .inr ⟨v, t₁, ⟨rfl, rfl⟩, hf⟩⟩

/-- Two filters fail with the left one or with the right one. -/
theorem pairStep_eq_error {place : FilterPlace} {occur : Occur} {visitLeft visitRight : Walk Outcome}
    (h : (do
      let a ← filterStep place visitLeft
      let b ← filterStep place visitRight
      return Clause.bool occur [a, b] : Walk Clause) t = .error err) :
    ∃ t₁, filterStep place visitLeft t₁ = .error err ∨ filterStep place visitRight t₁ = .error err := by
  rcases bind_eq_error_iff.1 h with hleft | ⟨a, t₁, _, h⟩
  · exact ⟨t, .inl hleft⟩
  · exact ⟨t₁, .inr (error_of_bind_pure h)⟩

end Steps

/-! ## Tests that fail -/

section Tests

variable {skip? : Option String} {t : Trace} {err : CompileError} {f : String} {v : Value}

theorem testError_of_comparisonClause {cmp : Comparison}
    (h : comparisonClause cmp f v = .error err) : TestError (.compare cmp) f v err := by
  cases v with
  | array vs =>
      cases h
      exact .array cmp
  | null =>
      cases cmp with
      | within b =>
          cases h
          exact .null b
      | _ => cases h
  | _ => rcases cmp with _ | _ | b <;> cases h

theorem testError_of_likeClause (h : likeClause f v = .error err) : TestError .like f v err := by
  cases v <;> cases h <;> exact .likePattern rfl

theorem testError_of_unlikeClause (h : unlikeClause f v = .error err) :
    TestError .unlike f v err := by
  cases v <;> cases h <;> exact .unlikePattern rfl

theorem testError_of_amongClause (h : amongClause f v = .error err) : TestError .among f v err := by
  cases v <;> cases h <;> exact .elements rfl

/-- A test fails in its clause only if it is not dropped. -/
theorem unlessSkipped_eq_error {clause : Except CompileError Clause}
    (h : unlessSkipped skip? f clause t = .error err) : skip? ≠ some f ∧ clause = .error err := by
  unfold unlessSkipped at h
  by_cases hskip : skip? = some f
  · rw [if_pos hskip] at h
    cases error_of_bind_pure h
  · rw [if_neg hskip, lift_eq_error_iff] at h
    exact ⟨hskip, h⟩

end Tests

/-! ## Visits that fail -/

section Visit

variable {skip? : Option String} {e l r : Expr} {t : Trace} {err : CompileError}

/-- A field reference is visited as a name, if it is visited at all. -/
theorem exists_name_of_visit (href : e.isFieldReference = true) {o : Outcome} {t' : Trace}
    (h : visit skip? e t = .ok (o, t')) :
    ∃ name, o = .value (.string name) ∧ e.path? = some name := by
  cases o with
  | value v =>
      obtain ⟨hv, _⟩ := (visit_value_iff e t t' v).1 h
      rw [Expr.value?_eq_path? href] at hv
      obtain ⟨name, hname, rfl⟩ := Option.map_eq_some_iff.1 hv
      exact ⟨name, rfl, hname⟩
  | filter c =>
      have hemits := emits_of_visit e t t' c h
      cases hemits <;> cases href

/-- So the name of a field operand is missing only if its visit fails. -/
theorem visit_eq_error_of_fieldName {op : BinaryOperator} (href : e.isFieldReference = true)
    (h : fieldName op (visit skip? e) t = .error err) : visit skip? e t = .error err := by
  rw [fieldName, valueStep_eq_error_iff] at h
  rcases h with h | ⟨⟨c, t₁, hvisit⟩, _⟩ | ⟨v, t₁, hvisit, hname⟩
  · exact h
  · obtain ⟨name, ho, _⟩ := exists_name_of_visit href hvisit
    cases ho
  · obtain ⟨name, ho, _⟩ := exists_name_of_visit href hvisit
    cases ho
    exact absurd hname pure_ne_error

theorem isFilter_of_visit {c : Clause} {t' : Trace} (h : visit skip? e t = .ok (.filter c, t')) :
    e.IsFilter skip? :=
  (emits_of_visit e t t' c h).isFilter

theorem isValue_of_visit {v : Value} {t' : Trace} (h : visit skip? e t = .ok (.value v, t')) :
    e.IsValue :=
  e.isValue_iff.2 ⟨v, ((visit_value_iff e t t' v).1 h).1⟩

/-- A filter operand fails with a visit, or because it is a value. -/
theorem error_or_isValue_of_filterStep {place : FilterPlace}
    (h : filterStep place (visit skip? e) t = .error err) :
    visit skip? e t = .error err ∨ e.IsValue ∧ .expectedFilter place = err := by
  rcases filterStep_eq_error_iff.1 h with h | ⟨⟨v, t₁, hvisit⟩, herr⟩
  · exact .inl h
  · exact .inr ⟨isValue_of_visit hvisit, herr⟩

end Visit

end Walk

/-- The expression has a node in fault. -/
def Expr.HasFault (skip? : Option String) (e : Expr) (err : CompileError) : Prop :=
  ∃ d ∈ e.nodes, Fault skip? d err

section Faults

variable {skip? : Option String} {e l r : Expr} {t : Trace} {err : CompileError} {token : String}

theorem Expr.self_mem_nodes (e : Expr) : e ∈ e.nodes := by
  cases e <;> simp [nodes]

theorem Fault.hasFault (h : Fault skip? e err) : e.HasFault skip? err :=
  ⟨e, e.self_mem_nodes, h⟩

/-- A fault in a part is a fault in the whole. -/
theorem Expr.HasFault.mono {part : Expr} (h : part.HasFault skip? err)
    (hnodes : ∀ d ∈ part.nodes, d ∈ e.nodes) : e.HasFault skip? err := by
  obtain ⟨d, hd, hfault⟩ := h
  exact ⟨d, hnodes d hd, hfault⟩

theorem Expr.HasFault.left (h : l.HasFault skip? err) : (Expr.binary token l r).HasFault skip? err :=
  h.mono fun d hd => by simp [nodes, hd]

theorem Expr.HasFault.right (h : r.HasFault skip? err) : (Expr.binary token l r).HasFault skip? err :=
  h.mono fun d hd => by simp [nodes, hd]

namespace Walk

/-- A test fails with the visit of an operand, or it is in fault itself. What the test does with its
operands is `finish`, and it may only fail as a test may. -/
theorem hasFault_of_operands {op : BinaryOperator} {field other : Expr}
    {finish : String × Value → Walk Clause} (horiented : Oriented token l r op field other)
    (hfield : ∀ t, visit skip? field t = .error err → (Expr.binary token l r).HasFault skip? err)
    (hother : ∀ t, visit skip? other t = .error err → (Expr.binary token l r).HasFault skip? err)
    (hfinish : ∀ f v t, finish (f, v) t = .error err →
      (op.skippable = true → skip? ≠ some f) ∧ TestError op f v err)
    (h : (operands op (visit skip? field) (visit skip? other) >>= finish) t = .error err) :
    (Expr.binary token l r).HasFault skip? err := by
  have href : field.isFieldReference = true := by
    cases horiented with
    | left _ _ hl => exact hl
    | right _ _ hr => exact hr
  -- In the order of the visit: the field, the other operand, its kind, and then the test.
  rcases bind_eq_error_iff.1 h with hoperands | ⟨⟨f, v⟩, t₂, hoperands, hclause⟩
  · rcases bind_eq_error_iff.1 hoperands with hname | ⟨name, t₁, _, hvalue⟩
    · exact hfield t (visit_eq_error_of_fieldName href hname)
    · rcases valueStep_eq_error_iff.1 hvalue with hvalue | ⟨⟨c, t₂, hvisit⟩, rfl⟩ | ⟨_, _, _, hpure⟩
      · exact hother t₁ hvalue
      · exact (Fault.filterInTest horiented (isFilter_of_visit hvisit)).hasFault
      · exact absurd hpure pure_ne_error
  · obtain ⟨t₁, hname, hvalue⟩ := operands_eq_ok_iff.1 hoperands
    obtain ⟨hkeep, htest⟩ := hfinish f v t₂ hclause
    have hpath := Expr.path?_eq_some_iff.2 ⟨href, ((visit_value_iff field _ _ _).1 hname).1⟩
    have hv := ((visit_value_iff other _ _ _).1 hvalue).1
    exact (Fault.test horiented hpath hv hkeep htest).hasFault

/-- A test that may be dropped fails as a test may, if it is kept. -/
theorem unlessSkipped_testError {op : BinaryOperator} {f : String} {v : Value}
    {clause : Except CompileError Clause} (hclause : clause = .error err → TestError op f v err)
    (h : unlessSkipped skip? f clause t = .error err) :
    (op.skippable = true → skip? ≠ some f) ∧ TestError op f v err := by
  obtain ⟨hskip, herr⟩ := unlessSkipped_eq_error h
  exact ⟨fun _ => hskip, hclause herr⟩

/-- So does a test that is never dropped. -/
theorem lift_testError {op : BinaryOperator} {f : String} {v : Value}
    {clause : Except CompileError Clause} (hop : op.skippable = false)
    (hclause : clause = .error err → TestError op f v err)
    (h : (liftM clause : Walk Clause) t = .error err) :
    (op.skippable = true → skip? ≠ some f) ∧ TestError op f v err := by
  refine ⟨?_, hclause (lift_eq_error_iff.1 h)⟩
  rw [hop]
  nofun

variable (hl : ∀ t, visit skip? l t = .error err → (Expr.binary token l r).HasFault skip? err)
variable (hr : ∀ t, visit skip? r t = .error err → (Expr.binary token l r).HasFault skip? err)

include hl hr

/-- A test with a field reference on its left. -/
theorem hasFault_of_leftStep {op : BinaryOperator} (htoken : BinaryOperator.ofToken? token = some op)
    (hop : op.isTest = true) (href : l.isFieldReference = true)
    (h : binaryStep skip? op l r (visit skip? l) (visit skip? r) t = .error err) :
    (Expr.binary token l r).HasFault skip? err := by
  have horiented : Oriented token l r op l r := by
    rw [BinaryOperator.eq_symbol_of_ofToken? htoken]
    exact .left op hop href
  cases op with
  | and => cases hop
  | or => cases hop
  | compare cmp =>
      simp only [binaryStep_compare, href, if_true] at h
      exact hasFault_of_operands horiented hl hr
        (fun _ _ _ => unlessSkipped_testError testError_of_comparisonClause) h
  | like =>
      simp only [binaryStep, href] at h
      exact hasFault_of_operands horiented hl hr
        (fun _ _ _ => lift_testError rfl testError_of_likeClause) h
  | unlike =>
      simp only [binaryStep, href] at h
      exact hasFault_of_operands horiented hl hr
        (fun _ _ _ => lift_testError rfl testError_of_unlikeClause) h
  | among =>
      simp only [binaryStep, href] at h
      exact hasFault_of_operands horiented hl hr
        (fun _ _ _ => unlessSkipped_testError testError_of_amongClause) h

/-- A comparison without a field reference on its left. -/
theorem hasFault_of_rightStep {cmp : Comparison}
    (htoken : BinaryOperator.ofToken? token = some (.compare cmp)) (hlref : l.isFieldReference = false)
    (h : binaryStep skip? (.compare cmp) l r (visit skip? l) (visit skip? r) t = .error err) :
    (Expr.binary token l r).HasFault skip? err := by
  have hsymbol : token = cmp.symbol := BinaryOperator.eq_symbol_of_ofToken? htoken
  subst hsymbol
  cases hrref : r.isFieldReference with
  | true =>
      simp only [binaryStep_compare, hlref, hrref, Bool.false_eq_true, if_false, if_true] at h
      exact hasFault_of_operands (.right cmp hlref hrref) hr hl
        (fun _ _ _ => unlessSkipped_testError testError_of_comparisonClause) h
  | false =>
      simp only [binaryStep_compare, hlref, hrref, Bool.false_eq_true, if_false] at h
      cases throw_eq_error_iff.1 h
      exact (Fault.noField cmp hlref hrref).hasFault

/-- A failed test is the fault of an operand or of the test. -/
theorem hasFault_of_testStep {op : BinaryOperator} (htoken : BinaryOperator.ofToken? token = some op)
    (hop : op.isTest = true)
    (h : binaryStep skip? op l r (visit skip? l) (visit skip? r) t = .error err) :
    (Expr.binary token l r).HasFault skip? err := by
  cases hlref : l.isFieldReference with
  | true => exact hasFault_of_leftStep hl hr htoken hop hlref h
  | false =>
      cases op with
      | and => cases hop
      | or => cases hop
      | compare cmp => exact hasFault_of_rightStep hl hr htoken hlref h
      | like | unlike | among =>
          simp only [binaryStep, hlref] at h
          cases h
          rw [BinaryOperator.eq_symbol_of_ofToken? htoken]
          exact (Fault.noLeftField rfl hlref).hasFault

/-- Two filters fail with the visit of one of them, or because one is a value. -/
theorem hasFault_of_pairStep {place : FilterPlace} {occur : Occur}
    (hvalue : l.IsValue ∨ r.IsValue → Fault skip? (.binary token l r) (.expectedFilter place))
    (h : (do
      let a ← filterStep place (visit skip? l)
      let b ← filterStep place (visit skip? r)
      return Clause.bool occur [a, b] : Walk Clause) t = .error err) :
    (Expr.binary token l r).HasFault skip? err := by
  obtain ⟨t₁, hleft | hright⟩ := pairStep_eq_error h
  · rcases error_or_isValue_of_filterStep hleft with hvisit | ⟨hlvalue, rfl⟩
    · exact hl t₁ hvisit
    · exact (hvalue (.inl hlvalue)).hasFault
  · rcases error_or_isValue_of_filterStep hright with hvisit | ⟨hrvalue, rfl⟩
    · exact hr t₁ hvisit
    · exact (hvalue (.inr hrvalue)).hasFault

/-- A failed operator is the fault of an operand or of the operator. -/
theorem hasFault_of_binary (h : visit skip? (.binary token l r) t = .error err) :
    (Expr.binary token l r).HasFault skip? err := by
  rw [visit] at h
  cases htoken : BinaryOperator.ofToken? token with
  | none =>
      rw [htoken] at h
      cases throw_eq_error_iff.1 h
      refine Fault.hasFault (.binaryToken ?_)
      -- The symbol of an operator would have been read as the operator.
      rintro op rfl
      rw [op.ofToken?_symbol] at htoken
      cases htoken
  | some op =>
      rw [htoken] at h
      have hstep := error_of_bind_pure h
      cases op with
      | and =>
          refine hasFault_of_pairStep hl hr (fun hvalue => ?_) hstep
          rw [BinaryOperator.eq_symbol_of_ofToken? htoken]
          exact .valueInAnd hvalue
      | or =>
          refine hasFault_of_pairStep hl hr (fun hvalue => ?_) hstep
          rw [BinaryOperator.eq_symbol_of_ofToken? htoken]
          exact .valueInOr hvalue
      | _ => exact hasFault_of_testStep hl hr htoken rfl hstep

omit hl hr

/-- A failed negation is the fault of its argument or of the negation. -/
theorem hasFault_of_unary {argument : Expr}
    (hargument : ∀ t, visit skip? argument t = .error err → argument.HasFault skip? err)
    (h : visit skip? (.unary token argument) t = .error err) :
    (Expr.unary token argument).HasFault skip? err := by
  rw [visit] at h
  cases htoken : UnaryOperator.ofToken? token with
  | none =>
      rw [htoken] at h
      cases throw_eq_error_iff.1 h
      refine Fault.hasFault (.unaryToken ?_)
      rintro rfl
      cases htoken
  | some op =>
      rw [htoken] at h
      have hstep := error_of_bind_pure h
      rcases error_or_isValue_of_filterStep hstep with hvisit | ⟨hvalue, rfl⟩
      · exact (hargument t hvisit).mono fun d hd => by simp [Expr.nodes, hd]
      · rw [UnaryOperator.eq_not_of_ofToken? htoken]
        exact (Fault.valueInNot hvalue).hasFault

/-- The elements of an array fail with the visit of one of them, or because one is a filter. -/
theorem exists_of_visitElements {elements : List Expr} :
    ∀ {t : Trace}, visitElements skip? elements t = .error err →
      ∃ e ∈ elements, (∃ t₁, visit skip? e t₁ = .error err) ∨
        e.IsFilter skip? ∧ .expectedValue .arrayElement = err := by
  induction elements with
  | nil =>
      intro t h
      exact absurd h pure_ne_error
  | cons e rest ih =>
      intro t h
      rw [visitElements] at h
      rcases valueStep_eq_error_iff.1 h with hvisit | ⟨⟨c, t₁, hvisit⟩, herr⟩ | ⟨v, t₁, _, hrest⟩
      · exact ⟨e, List.mem_cons_self, .inl ⟨t, hvisit⟩⟩
      · exact ⟨e, List.mem_cons_self, .inr ⟨isFilter_of_visit hvisit, herr⟩⟩
      · obtain ⟨e', he', hcause⟩ := ih (error_of_bind_pure hrest)
        exact ⟨e', List.mem_cons_of_mem _ he', hcause⟩

/-- A failed path is the fault of one of its parts or of the path. -/
theorem hasFault_of_member {object property : Expr}
    (hobject : ∀ t, visit skip? object t = .error err → object.HasFault skip? err)
    (hproperty : ∀ t, visit skip? property t = .error err → property.HasFault skip? err)
    (h : visit skip? (.member object property) t = .error err) :
    (Expr.member object property).HasFault skip? err := by
  rw [visit] at h
  rcases valueStep_eq_error_iff.1 h with hvisit | ⟨⟨c, t₁, hvisit⟩, rfl⟩ | ⟨v, t₁, _, h⟩
  · exact (hobject t hvisit).mono fun d hd => by simp [Expr.nodes, hd]
  · exact (Fault.filterInPath (.inl (isFilter_of_visit hvisit))).hasFault
  · rcases valueStep_eq_error_iff.1 h with hvisit | ⟨⟨c, t₂, hvisit⟩, rfl⟩ | ⟨_, _, _, hpure⟩
    · exact (hproperty t₁ hvisit).mono fun d hd => by simp [Expr.nodes, hd]
    · exact (Fault.filterInPath (.inr (isFilter_of_visit hvisit))).hasFault
    · exact absurd hpure pure_ne_error

/-- **Visits.** What a visit reports is the fault of a node of the expression. -/
theorem hasFault_of_visit (e : Expr) : ∀ (t : Trace) (err : CompileError),
    visit skip? e t = .error err → e.HasFault skip? err := by
  induction e with
  | null | boolean | number | string | moment | duration | fulltext =>
      intro t err h
      exact absurd h pure_ne_error
  | field name =>
      intro t err h
      cases h
  | filter ast ih | term ast ih =>
      intro t err h
      exact (ih t err h).mono fun d hd => by simp [Expr.nodes, hd]
  | array elements ih =>
      intro t err h
      rw [visit] at h
      have helements := error_of_bind_pure h
      obtain ⟨e, he, ⟨t₁, hvisit⟩ | ⟨hfilter, rfl⟩⟩ := exists_of_visitElements helements
      · refine (ih e he t₁ err hvisit).mono fun d hd => ?_
        rw [Expr.nodes]
        exact List.mem_cons_of_mem _ (Expr.mem_listNodes he hd)
      · exact (Fault.filterInArray he hfilter).hasFault
  | unary token argument ih =>
      intro t err h
      exact hasFault_of_unary (fun t => ih t err) h
  | member object property iho ihp =>
      intro t err h
      exact hasFault_of_member (fun t => iho t err) (fun t => ihp t err) h
  | binary token l r ihl ihr =>
      intro t err h
      exact hasFault_of_binary (fun t hvisit => (ihl t err hvisit).left)
        (fun t hvisit => (ihr t err hvisit).right) h

end Walk

end Faults

/-- **Compile errors are truthful.** What a compilation reports is the fault of a node of the
expression, or of the root where that is a value. None of it comes from a guard that cannot fail: a
field reference is visited as a name, every comparison has a mirror, and every one but equality and its
negation has a bound. -/
theorem compile_error_cause (skip? : Option String) (e : Expr) (err : CompileError)
    (h : compile skip? e = .error err) :
    ((err = .expectedFilter .root ∧ e.IsValue) ∨ ∃ d ∈ e.nodes, Fault skip? d err) ∧
      (∀ (d : Expr) (t t' : Trace) (o : Outcome), d.isFieldReference = true →
        Walk.visit skip? d t = .ok (o, t') → ∃ name, o = .value (.string name)) ∧
      (∀ cmp : Comparison, (BinaryOperator.compare cmp).mirror? = some (.compare cmp.mirror) ∧
        (cmp = .equal ∨ cmp = .notEqual ∨ ∃ b, (BinaryOperator.compare cmp).bound? = some b)) := by
  refine ⟨?_, ?_, ?_⟩
  · cases hvisit : Walk.visit skip? e ⟨[], []⟩ with
    | error err' =>
        rw [compile, hvisit] at h
        cases h
        exact .inr (Walk.hasFault_of_visit e _ err hvisit)
    | ok p =>
        obtain ⟨o, t⟩ := p
        rw [compile, hvisit] at h
        cases o with
        | value v =>
            cases h
            exact .inl ⟨rfl, Walk.isValue_of_visit hvisit⟩
        | filter c => cases h
  · intro d t t' o href hvisit
    obtain ⟨name, ho, _⟩ := Walk.exists_name_of_visit href hvisit
    exact ⟨name, ho⟩
  · intro cmp
    refine ⟨rfl, ?_⟩
    cases cmp with
    | equal => exact .inl rfl
    | notEqual => exact .inr (.inl rfl)
    | within b => exact .inr (.inr ⟨b, rfl⟩)

/-- Null is ordered deep in a tree and with the field on the right, after a comparison that is dropped
in spite of the same fault. -/
theorem compile_error_cause_null :
    let path := Expr.member (.field "host") (.string "load")
    let e := Expr.both (.binary ">" .null (.field "time")) (.negate (.term (.binary "<=" .null path)))
    compile (some "time") e = .error (.nullComparison .gte "host.load") ∧
      ∃ d ∈ e.nodes, Fault (some "time") d (.nullComparison .gte "host.load") := by
  intro path e
  have hcompile : compile (some "time") e = .error (.nullComparison .gte "host.load") := rfl
  obtain ⟨hroot | hfault, _⟩ := compile_error_cause (some "time") e _ hcompile
  · cases hroot.1
  · exact ⟨hcompile, hfault⟩

end FilterQuery
