import FilterQuery.Proofs.WalkRules

/-!
# The shape of emitted filters

The type of clauses allows more than the walk emits. `Clause.WellShaped` states, clause by clause,
what a reader of a compiled filter may rely on: how many children a boolean clause has, what stands
under a negation, which values a comparison holds, and where the skip field can appear. By
`compile_wellShaped` it holds at every place of every compiled filter.
-/

namespace FilterQuery

namespace Clause

/-- `d.Subclause c` says that `d` occurs in `c`, the clause `c` itself included. -/
inductive Subclause (d : Clause) : Clause → Prop
  | refl : Subclause d d
  | bool {occur clauses c} : c ∈ clauses → Subclause d c → Subclause d (.bool occur clauses)
  | not {c} : Subclause d c → Subclause d (.not c)

/-- Whether the clause may stand under a negation. Any other clause is negated by a boolean one. -/
def isNegatable : Clause → Bool
  | .term _ _ => true
  | .missing _ => true
  | .wildcard _ _ => true
  | _ => false

/-- The shape of one clause, without its children. A clause that matches everything stands for a test
on the skip field, which therefore no other test names. -/
def WellShaped (skip? : Option String) : Clause → Prop
  | .matchAll => skip? ≠ none
  | .bool .must clauses => clauses.length = 2
  | .bool .should clauses => clauses.length = 2
  | .bool .mustNot clauses => clauses.length = 1
  | .not clause => clause.isNegatable = true
  | .term field value => value.isScalar = true ∧ skip? ≠ some field
  | .terms field _ => skip? ≠ some field
  | .range field _ value => value.isScalar = true ∧ skip? ≠ some field
  | .missing field => skip? ≠ some field
  | .wildcard _ _ => True
  | .matchPhrase field _ => field = allFields

end Clause

variable {skip? : Option String} {op : BinaryOperator} {f : String} {v : Value} {c d : Clause}

/-- A test that is kept has a clause in shape. -/
theorem TestClause.wellShaped (h : TestClause op f v c)
    (hkeep : op.skippable = true → skip? ≠ some f) (hd : d.Subclause c) : d.WellShaped skip? := by
  cases h with
  | term hv =>
      cases hd
      exact ⟨hv, hkeep rfl⟩
  | missing | terms =>
      cases hd
      exact hkeep rfl
  | notTerm hv =>
      cases hd with
      | refl => rfl
      | not hd =>
          cases hd
          exact ⟨hv, hkeep rfl⟩
  | notMissing =>
      cases hd with
      | refl => rfl
      | not hd =>
          cases hd
          exact hkeep rfl
  | range hv =>
      cases hd
      exact ⟨hv, hkeep rfl⟩
  | wildcard =>
      cases hd
      trivial
  | notWildcard =>
      cases hd with
      | refl => rfl
      | not hd =>
          cases hd
          trivial

/-- Every place of an emitted clause is in shape. -/
theorem Emits.wellShaped {e : Expr} (h : Emits skip? e c) :
    ∀ d : Clause, d.Subclause c → d.WellShaped skip? := by
  induction h with
  | fulltext text =>
      intro d hd
      cases hd
      rfl
  | filter _ ih | term _ ih => exact ih
  | not _ _ ih =>
      intro d hd
      cases hd with
      | refl => rfl
      | bool hc hd =>
          cases List.mem_singleton.1 hc
          exact ih d hd
  | and _ _ _ ihl ihr | or _ _ _ ihl ihr =>
      intro d hd
      cases hd with
      | refl => rfl
      | bool hc hd =>
          rcases List.mem_cons.1 hc with rfl | hc
          · exact ihl d hd
          · cases List.mem_singleton.1 hc
            exact ihr d hd
  | test _ htested =>
      intro d hd
      cases htested with
      | kept hkeep htest => exact htest.wellShaped hkeep hd
      | dropped _ hskip =>
          cases hd
          rw [hskip]
          exact Option.some_ne_none _

/-- **Compiled filters are in shape**, at every place and with any skip field. -/
theorem compile_wellShaped (skip? : Option String) (e : Expr) (r : Compilation)
    (h : compile skip? e = .ok r) (d : Clause) (hd : d.Subclause r.filter) :
    d.WellShaped skip? :=
  (compile_eq_ok_iff.1 h).1.wellShaped d hd

/-- A test that is kept under a negation and a disjunction, beside a dropped one. -/
theorem compile_wellShaped_level :
    let e := Expr.negate (.either (.binary ">=" (.field "time") .null)
      (.binary "!=" (.string "debug") (.field "level")))
    let c := Clause.bool .mustNot
      [.bool .should [.matchAll, .not (.term "level" (.string "debug"))]]
    compile (some "time") e = .ok ⟨c, ["time", "level"], ["time"]⟩ ∧
      (Clause.term "level" (.string "debug")).Subclause c ∧
      (Clause.term "level" (.string "debug")).WellShaped (some "time") := by
  intro e c
  have hsub : (Clause.term "level" (.string "debug")).Subclause c :=
    .bool List.mem_cons_self (.bool (List.mem_cons_of_mem _ List.mem_cons_self) (.not .refl))
  exact ⟨rfl, hsub,
    compile_wellShaped (some "time") e ⟨c, ["time", "level"], ["time"]⟩ rfl _ hsub⟩

end FilterQuery
