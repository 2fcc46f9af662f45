import FilterQuery.Proofs.WalkRules

/-!
# The skip field as a pass over the filter

The walk drops a test on the skip field as soon as the operands of the test are known. Nothing else
depends on the skip field, so that its effect can be stated after the fact: compile without it, then
replace by a match of everything the tests on the field, and record the field once for each of them
(`compile_some_of_compile_none`).

The two ways agree only where compilation without the skip field succeeds. A test on the skip field
may be in error otherwise, as a comparison with an array is, and the walk does not notice.
-/

namespace FilterQuery

namespace Clause

/-- Whether the clause as a whole is a test on the field that gives way to it. A negated test counts
as one, and a wildcard match or a phrase never does. -/
def testsField (s : String) : Clause → Bool
  | .term f _ => decide (f = s)
  | .terms f _ => decide (f = s)
  | .range f _ _ => decide (f = s)
  | .missing f => decide (f = s)
  | .not (.term f _) => decide (f = s)
  | .not (.missing f) => decide (f = s)
  | _ => false

mutual

/-- Replaces the tests on the field by matches of everything, below boolean clauses at any depth. -/
def erase (s : String) : Clause → Clause
  | .bool occur clauses => .bool occur (eraseList s clauses)
  | c => if c.testsField s then .matchAll else c

/-- Replaces the tests on the field in every clause of a list. -/
def eraseList (s : String) : List Clause → List Clause
  | [] => []
  | clause :: rest => clause.erase s :: eraseList s rest

end

mutual

/-- The number of tests that `erase` replaces. -/
def erasures (s : String) : Clause → Nat
  | .bool _ clauses => listErasures s clauses
  | c => if c.testsField s then 1 else 0

/-- The number of tests that `eraseList` replaces. -/
def listErasures (s : String) : List Clause → Nat
  | [] => 0
  | clause :: rest => clause.erasures s + listErasures s rest

end

/-- A test that gives way to a field has no place that matches everything. -/
theorem matchAllCount_of_testsField {s : String} {c : Clause} (h : c.testsField s = true) :
    c.matchAllCount = 0 := by
  cases c with
  | term | terms | range | missing => rfl
  | not c =>
      cases c with
      | term | missing => rfl
      | _ => cases h
  | _ => cases h

/-- Each replacement adds one place that matches everything. -/
theorem matchAllCount_erase (s : String) (c : Clause) :
    (c.erase s).matchAllCount = c.matchAllCount + c.erasures s := by
  induction c with
  | bool occur clauses ih =>
      simp only [erase, matchAllCount, erasures]
      induction clauses with
      | nil => rfl
      | cons c rest ihrest =>
          have hhead := ih c List.mem_cons_self
          have htail := ihrest fun c' hc' => ih c' (List.mem_cons_of_mem _ hc')
          simp only [eraseList, listMatchAllCount, listErasures, hhead, htail]
          omega
  | matchAll => rfl
  | not | term | terms | range | missing | wildcard | matchPhrase =>
      simp only [erase, erasures]
      split
      · rename_i h
        rw [matchAllCount_of_testsField h]
        rfl
      · rfl

end Clause

/-! ## Emitted clauses -/

section Emitted

variable {s : String} {op : BinaryOperator} {f : String} {v : Value} {c : Clause} {e : Expr}

/-- The clause of a test is replaced exactly if its operator gives way to the skip field and its field
is the skip field. -/
theorem TestClause.erase_eq (h : TestClause op f v c) :
    c.erase s = if op.skippable = true ∧ f = s then .matchAll else c := by
  cases h <;> simp [Clause.erase, Clause.testsField, BinaryOperator.skippable]

/-- Without a skip field nothing matches everything. -/
theorem Emits.matchAllCount_eq_zero (h : Emits none e c) : c.matchAllCount = 0 := by
  induction h with
  | fulltext text => rfl
  | filter _ ih | term _ ih => exact ih
  | not _ _ ih => simp [Clause.matchAllCount, Clause.listMatchAllCount, ih]
  | and _ _ _ ihl ihr | or _ _ _ ihl ihr =>
      simp [Clause.matchAllCount, Clause.listMatchAllCount, ihl, ihr]
  | test _ htested =>
      cases htested with
      | kept _ htest => exact htest.matchAllCount_eq_zero
      | dropped _ hskip => cases hskip

/-- With a skip field, an expression emits the clause that it emits without one, less the tests on the
skip field. -/
theorem Emits.erase (s : String) (h : Emits none e c) : Emits (some s) e (c.erase s) := by
  induction h with
  | fulltext text => exact .fulltext text
  | filter _ ih => exact .filter ih
  | term _ ih => exact .term ih
  | not htoken _ ih => exact .not htoken ih
  | and htoken _ _ ihl ihr => exact .and htoken ihl ihr
  | or htoken _ _ ihl ihr => exact .or htoken ihl ihr
  | test hresolves htested =>
      cases htested with
      | dropped _ hskip => cases hskip
      | kept _ htest =>
          -- The operands are resolved before the skip field is asked, so `hresolves` serves both.
          refine .test hresolves ?_
          rw [htest.erase_eq]
          split
          · rename_i hdrop
            exact .dropped hdrop.1 (congrArg some hdrop.2.symm)
          · rename_i hkeep
            exact .kept (fun hop hskip => hkeep ⟨hop, (Option.some.inj hskip).symm⟩) htest

end Emitted

/-- **The skip field is a pass over the filter.** If an expression compiles without a skip field, then
it compiles with any skip field: to the same filter with the tests on the field erased, with the same
fields, and with one record for each test that was erased. -/
theorem compile_some_of_compile_none (s : String) (e : Expr) (r : Compilation)
    (h : compile none e = .ok r) :
    compile (some s) e =
      .ok ⟨r.filter.erase s, r.fields, List.replicate (r.filter.erasures s) s⟩ := by
  obtain ⟨hemits, hfields, _⟩ := compile_eq_ok_iff.1 h
  refine compile_eq_ok_iff.2 ⟨hemits.erase s, hfields, ?_⟩
  change List.replicate (r.filter.erase s).matchAllCount s = _
  rw [Clause.matchAllCount_erase, hemits.matchAllCount_eq_zero, Nat.zero_add]

/-- The skip field in a comparison, under a negation, in a membership and in a wildcard match, which
alone keeps it. -/
theorem compile_some_of_compile_none_time :
    let e := Expr.both
      (.either (.binary "<" (.number (.int 5)) (.field "time")) (.binary "==" (.field "level") .null))
      (.negate (.both (.binary "!=" .null (.field "time"))
        (.either (.binary "in" (.field "time") (.array [.number (.int 1)]))
          (.binary "!~" (.field "time") (.string "*Z")))))
    let c := Clause.bool .must
      [.bool .should [.range "time" .gt (.number (.int 5)), .missing "level"],
        .bool .mustNot [.bool .must [.not (.missing "time"),
          .bool .should [.terms "time" [.number (.int 1)], .not (.wildcard "time" "*Z")]]]]
    let fields := ["time", "level", "time", "time", "time"]
    compile none e = .ok ⟨c, fields, []⟩ ∧
      compile (some "time") e =
        .ok ⟨c.erase "time", fields, List.replicate (c.erasures "time") "time"⟩ :=
  ⟨rfl, compile_some_of_compile_none "time" _ ⟨_, _, []⟩ rfl⟩

end FilterQuery
