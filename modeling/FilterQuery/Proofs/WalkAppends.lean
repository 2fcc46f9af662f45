import FilterQuery.Proofs.MemberPaths

/-!
# The walk only appends

A walk carries its records along, but it never reads them: what it yields, and whether it fails, depends
on the expression and the skip field alone, and the records grow at their ends only. `Walk.Appends` says
so of a single step, by comparing it from any trace with the same step from the empty one. It holds of the
few primitive steps and is kept by sequencing, and so it holds of every step that is built from them, down
to the visit of a whole expression (`Walk.appends_visit`).

A visit that yields a value appends to one of the records only. Comparisons are dropped where an operator
becomes a clause, and an expression that denotes a value has no operator in it.

## Main results

* `Walk.Appends.bind` — sequencing keeps the law.
* `Walk.appends_visit` — the visit of any expression follows the law.
* `Walk.visit_append` — a visit from any records, and what a visit of a value leaves.
-/

namespace FilterQuery

theorem Trace.append_assoc (t d d' : Trace) : t ++ d ++ d' = t ++ (d ++ d') :=
  append_append_mk t d.fields d.skipped d'.fields d'.skipped

namespace Walk

/-! ## Steps that append -/

/-- The step yields or fails as it does from the empty trace, and what it records there is appended to
the trace that it starts from. -/
def Appends {α : Type} (x : Walk α) : Prop :=
  ∀ t : Trace, x t = (x ⟨[], []⟩).map fun r => (r.1, t ++ r.2)

section Steps

variable {α β : Type}

theorem Appends.of_pure (a : α) : Appends (pure a : Walk α) := by
  intro t
  show Except.ok (a, t) = .ok (a, t ++ ⟨[], []⟩)
  rw [Trace.append_empty]

theorem Appends.of_throw (err : CompileError) : Appends (throw err : Walk α) :=
  fun _ => rfl

theorem Appends.of_lift (x : Except CompileError α) : Appends (liftM x : Walk α) := by
  cases x with
  | error err => exact of_throw err
  | ok a => exact of_pure a

theorem appends_recordField (name : String) : Appends (recordField name) := by
  have hstep : ∀ t, recordField name t = .ok ((), t ++ ⟨[name], []⟩) :=
    fun _ => recordField_eq_ok_iff.2 rfl
  intro t
  rw [hstep, hstep]
  rfl

theorem appends_recordSkipped (name : String) : Appends (recordSkipped name) := by
  have hstep : ∀ t, recordSkipped name t = .ok ((), t ++ ⟨[], [name]⟩) :=
    fun _ => recordSkipped_eq_ok_iff.2 rfl
  intro t
  rw [hstep, hstep]
  rfl

/-- One step after another. The second one starts where the first one ends, which is why the law is about
every trace and not only about the empty one. -/
theorem Appends.bind {x : Walk α} {f : α → Walk β} (hx : Appends x) (hf : ∀ a, Appends (f a)) :
    Appends (x >>= f) := by
  intro t
  show Except.bind (x t) (fun r => f r.1 r.2) =
    (Except.bind (x ⟨[], []⟩) fun r => f r.1 r.2).map fun r => (r.1, t ++ r.2)
  rw [hx t]
  cases x ⟨[], []⟩ with
  | error err => rfl
  | ok r =>
      obtain ⟨a, d⟩ := r
      show f a (t ++ d) = (f a d).map fun r => (r.1, t ++ r.2)
      rw [hf a (t ++ d), hf a d]
      cases f a ⟨[], []⟩ with
      | error err => rfl
      | ok r' =>
          show Except.ok (r'.1, t ++ d ++ r'.2) = .ok (r'.1, t ++ (d ++ r'.2))
          rw [Trace.append_assoc]

end Steps

/-! ## Operands and operators -/

section Operators

variable {skip? : Option String} {field value visitLeft visitRight : Walk Outcome}

theorem Appends.filterStep (place : FilterPlace) (h : Appends visitLeft) :
    Appends (filterStep place visitLeft) :=
  h.bind fun _ => .of_lift _

/-- A value operand with anything that is done with the value. -/
theorem Appends.valueStep {α : Type} (place : ValuePlace) (h : Appends value) {f : Value → Walk α}
    (hf : ∀ v, Appends (f v)) : Appends (value >>= fun o => liftM (o.toValue place) >>= f) :=
  h.bind fun _ => (Appends.of_lift _).bind hf

theorem Appends.fieldName (op : BinaryOperator) (h : Appends field) : Appends (fieldName op field) := by
  refine h.valueStep (.operandOf op) ?_
  intro v
  cases v with
  | string name => exact .of_pure name
  | _ => exact .of_throw _

theorem Appends.operands (op : BinaryOperator) (hfield : Appends field) (hvalue : Appends value) :
    Appends (operands op field value) :=
  (hfield.fieldName op).bind fun _ => hvalue.valueStep (.operandOf op) fun _ => .of_pure _

theorem appends_unlessSkipped (name : String) (clause : Except CompileError Clause) :
    Appends (unlessSkipped skip? name clause) := by
  unfold unlessSkipped
  by_cases hskip : skip? = some name
  · rw [if_pos hskip]
    exact (appends_recordSkipped name).bind fun _ => .of_pure _
  · rw [if_neg hskip]
    exact .of_lift clause

theorem Appends.compareStep (cmp : Comparison) (hfield : Appends field) (hvalue : Appends value) :
    Appends (compareStep skip? cmp field value) :=
  (hfield.operands _ hvalue).bind fun _ => appends_unlessSkipped _ _

theorem Appends.pairStep (place : FilterPlace) (occur : Occur) (hl : Appends visitLeft)
    (hr : Appends visitRight) :
    Appends (do
      let a ← Walk.filterStep place visitLeft
      let b ← Walk.filterStep place visitRight
      return Clause.bool occur [a, b] : Walk Clause) :=
  (hl.filterStep place).bind fun _ => (hr.filterStep place).bind fun _ => .of_pure _

theorem Appends.binaryStep (op : BinaryOperator) (l r : Expr) (hl : Appends visitLeft)
    (hr : Appends visitRight) : Appends (binaryStep skip? op l r visitLeft visitRight) := by
  cases op with
  | and => exact hl.pairStep _ _ hr
  | or => exact hl.pairStep _ _ hr
  | compare cmp =>
      rw [Walk.binaryStep_compare]
      split
      · exact hl.compareStep cmp hr
      split
      · exact hr.compareStep cmp.mirror hl
      · exact .of_throw _
  | like | unlike =>
      cases href : l.isFieldReference with
      | true =>
          simp only [Walk.binaryStep, href]
          exact (hl.operands _ hr).bind fun _ => .of_lift _
      | false =>
          simp only [Walk.binaryStep, href]
          exact .of_throw _
  | among =>
      cases href : l.isFieldReference with
      | true =>
          simp only [Walk.binaryStep, href]
          exact (hl.operands _ hr).bind fun _ => appends_unlessSkipped _ _
      | false =>
          simp only [Walk.binaryStep, href]
          exact .of_throw _

end Operators

/-! ## Visits -/

variable {skip? : Option String}

theorem appends_visitElements {elements : List Expr}
    (helements : ∀ e ∈ elements, Appends (visit skip? e)) :
    Appends (visitElements skip? elements) := by
  induction elements with
  | nil => exact .of_pure []
  | cons e rest ih =>
      have hhead := helements e List.mem_cons_self
      have htail := ih fun e' he' => helements e' (List.mem_cons_of_mem _ he')
      rw [visitElements]
      exact hhead.valueStep _ fun _ => htail.bind fun _ => .of_pure _

/-- The visit of an expression appends to the trace and does not look at it. -/
theorem appends_visit (e : Expr) : Appends (visit skip? e) := by
  induction e with
  | null | boolean | number | string | moment | duration | fulltext => exact .of_pure _
  | field name => exact (appends_recordField name).bind fun _ => .of_pure _
  | filter ast ih | term ast ih => exact ih
  | array elements ih => exact (appends_visitElements ih).bind fun _ => .of_pure _
  | member object property iho ihp =>
      rw [visit]
      exact iho.valueStep _ fun _ => ihp.valueStep _ fun _ => .of_pure _
  | unary token argument ih =>
      rw [visit]
      cases UnaryOperator.ofToken? token with
      | none => exact .of_throw _
      | some op => exact (ih.filterStep _).bind fun _ => .of_pure _
  | binary token l r ihl ihr =>
      rw [visit]
      cases BinaryOperator.ofToken? token with
      | none => exact .of_throw _
      | some op => exact (ihl.binaryStep op l r ihr).bind fun _ => .of_pure _

end Walk

/-! ## Visits of values -/

namespace Expr

/-- Whether the node becomes a clause by itself: it is an operator or a phrase. -/
def isClauseNode : Expr → Bool
  | .unary _ _ => true
  | .binary _ _ _ => true
  | .fulltext _ => true
  | _ => false

theorem IsValue.isClauseNode_eq_false {e : Expr} (h : e.IsValue) : e.isClauseNode = false := by
  cases h <;> rfl

end Expr

/-- **The walk only appends.** From any records a visit has the outcome or the error that it has from empty
ones, and what it records then is appended to them. A visit that yields a value records no dropped
comparison, and the expression has no operator and no phrase in it. -/
theorem Walk.visit_append (skip? : Option String) (e : Expr) (fields skipped : List String) :
    visit skip? e ⟨fields, skipped⟩ =
        (visit skip? e ⟨[], []⟩).map (fun r => (r.1, ⟨fields ++ r.2.fields, skipped ++ r.2.skipped⟩)) ∧
      ∀ (v : Value) (t : Trace), visit skip? e ⟨[], []⟩ = .ok (.value v, t) →
        t.skipped = [] ∧ ∀ d ∈ e.nodes, d.isClauseNode = false := by
  refine ⟨appends_visit e ⟨fields, skipped⟩, ?_⟩
  intro v t h
  obtain ⟨hv, rfl⟩ := (visit_value_iff e _ _ v).1 h
  have hvalue : e.IsValue := e.isValue_iff.2 ⟨v, hv⟩
  exact ⟨rfl, fun d hd => (hvalue.of_mem_nodes d hd).isClauseNode_eq_false⟩

/-- An array of a path and a field, visited after two fields and a dropped comparison were recorded. -/
theorem Walk.visit_append_array :
    let e : Expr := .array [.member (.field "host") (.string "name"), .term (.field "zone")]
    let v := Value.array [.string "host.name", .string "zone"]
    visit (some "time") e ⟨[], []⟩ = .ok (.value v, ⟨["host", "zone"], []⟩) ∧
      visit (some "time") e ⟨["a", "time"], ["time"]⟩ =
        .ok (.value v, ⟨["a", "time", "host", "zone"], ["time"]⟩) ∧
      ∀ d ∈ e.nodes, d.isClauseNode = false := by
  intro e v
  have hempty : visit (some "time") e ⟨[], []⟩ = .ok (.value v, ⟨["host", "zone"], []⟩) := rfl
  obtain ⟨hvisit, hvalue⟩ := visit_append (some "time") e ["a", "time"] ["time"]
  rw [hempty] at hvisit
  exact ⟨hempty, hvisit, (hvalue v _ hempty).2⟩

end FilterQuery
