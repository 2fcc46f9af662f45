import FilterQuery.Proofs.Erasure
import FilterQuery.Proofs.Meaning

/-!
# What skipping does to a filter

A dropped test becomes a clause that matches everything. This module states what a reader of the
filter can conclude from that.

* The record of dropped tests and the filter tell the same story: there is one entry for each place
  that matches everything, and without an entry the skip field had no part in the compilation
  (`compile_some_record`).
* Dropping a test widens the filter where the test stands under an even number of negations, and
  narrows it where it stands under an odd one (`compile_some_polarity`). A negated test on the skip
  field does not become harmless; it becomes a clause that matches nothing.
-/

namespace FilterQuery

/-! ## The record -/

section Record

variable {s : String} {e : Expr} {c : Clause}

/-- A clause in which nothing matches everything is emitted without the skip field too. -/
theorem Emits.without_skip (h : Emits (some s) e c) (hcount : c.matchAllCount = 0) :
    Emits none e c := by
  induction h with
  | fulltext text => exact .fulltext text
  | filter _ ih => exact .filter (ih hcount)
  | term _ ih => exact .term (ih hcount)
  | not htoken _ ih =>
      simp only [Clause.matchAllCount, Clause.listMatchAllCount, Nat.add_zero] at hcount
      exact .not htoken (ih hcount)
  | and htoken _ _ ihl ihr =>
      simp only [Clause.matchAllCount, Clause.listMatchAllCount, Nat.add_zero,
        Nat.add_eq_zero_iff] at hcount
      exact .and htoken (ihl hcount.1) (ihr hcount.2)
  | or htoken _ _ ihl ihr =>
      simp only [Clause.matchAllCount, Clause.listMatchAllCount, Nat.add_zero,
        Nat.add_eq_zero_iff] at hcount
      exact .or htoken (ihl hcount.1) (ihr hcount.2)
  | test hresolves htested =>
      cases htested with
      | kept _ htest =>
          refine .test hresolves (.kept ?_ htest)
          intro _ hskip
          cases hskip
      | dropped _ _ => cases hcount

/-- A test was dropped exactly if some place of the filter matches everything. -/
theorem skipApplied_eq_true_iff {r : Compilation} (h : compile (some s) e = .ok r) :
    r.skipApplied = true ↔ r.filter.matchAllCount ≠ 0 := by
  obtain ⟨_, _, hskipped⟩ := compile_eq_ok_iff.1 h
  have hrecord : r.skipped = List.replicate r.filter.matchAllCount s := hskipped.symm
  rw [Compilation.skipApplied, hrecord]
  cases r.filter.matchAllCount with
  | zero => simp
  | succ n => simp [List.replicate_succ]

end Record

/-- **The record of dropped tests agrees with the filter.** It holds the skip field once for each place
of the filter that matches everything. If it is empty, then the expression compiles to the same result
without the skip field; otherwise it does not compile to the same filter, if it compiles at all. -/
theorem compile_some_record (s : String) (e : Expr) (r : Compilation)
    (h : compile (some s) e = .ok r) :
    (∀ name ∈ r.skipped, name = s) ∧ r.skipped.length = r.filter.matchAllCount ∧
      (r.skipApplied = false → compile none e = .ok r) ∧
      (r.skipApplied = true → (∃ err, compile none e = .error err) ∨
        ∃ r', compile none e = .ok r' ∧ r'.filter ≠ r.filter) := by
  obtain ⟨hemits, hfields, hskipped⟩ := compile_eq_ok_iff.1 h
  have hrecord : r.skipped = List.replicate r.filter.matchAllCount s := hskipped.symm
  refine ⟨?_, ?_, ?_, ?_⟩
  · intro name hname
    rw [hrecord] at hname
    exact List.eq_of_mem_replicate hname
  · rw [hrecord, List.length_replicate]
  · intro happlied
    have hcount : r.filter.matchAllCount = 0 := by
      have hiff := skipApplied_eq_true_iff h
      simpa [happlied] using hiff
    refine compile_eq_ok_iff.2 ⟨hemits.without_skip hcount, hfields, ?_⟩
    rw [hrecord, hcount]
    rfl
  · intro happlied
    have hcount := (skipApplied_eq_true_iff h).1 happlied
    cases hnone : compile none e with
    | error err => exact .inl ⟨err, rfl⟩
    | ok r' =>
        refine .inr ⟨r', rfl, ?_⟩
        intro hfilter
        have hzero := (compile_eq_ok_iff.1 hnone).1.matchAllCount_eq_zero
        rw [hfilter] at hzero
        exact hcount hzero

/-- A dropped test under a negation, which would be in error without the skip field. -/
theorem compile_some_record_time :
    let e := Expr.either (.binary "in" (.member (.field "user") (.string "id")) (.array []))
      (.negate (.binary ">" .null (.field "time")))
    let c := Clause.bool .should [.terms "user.id" [], .bool .mustNot [.matchAll]]
    compile (some "time") e = .ok ⟨c, ["user", "time"], ["time"]⟩ ∧
      ["time"].length = c.matchAllCount ∧
      ((∃ err, compile none e = .error err) ∨ ∃ r', compile none e = .ok r' ∧ r'.filter ≠ c) := by
  intro e c
  have hcompile : compile (some "time") e = .ok ⟨c, ["user", "time"], ["time"]⟩ := rfl
  obtain ⟨_, hlength, _, happlied⟩ :=
    compile_some_record "time" e ⟨c, ["user", "time"], ["time"]⟩ hcompile
  exact ⟨hcompile, hlength, happlied rfl⟩

/-! ## Polarity -/

namespace Expr

/-- The field that an operator tests and whose test gives way to a skip field: that of a comparison or of
a membership, and of no wildcard match. -/
def droppableField? (token : String) (l r : Expr) : Option String :=
  match BinaryOperator.ofToken? token with
  | some (.compare _) => if l.isFieldReference then l.path? else r.path?
  | some .among => l.path?
  | _ => none

mutual

/-- The number of negations above each comparison and each membership on the field, from left to right. -/
def negationsAbove (s : String) : Expr → List Nat
  | .filter ast => ast.negationsAbove s
  | .array elements => listNegationsAbove s elements
  | .unary token argument =>
    match UnaryOperator.ofToken? token with
    | some .not => (argument.negationsAbove s).map (· + 1)
    | none => argument.negationsAbove s
  | .member object property => object.negationsAbove s ++ property.negationsAbove s
  | .binary token l r =>
    (if droppableField? token l r = some s then [0] else []) ++
      (l.negationsAbove s ++ r.negationsAbove s)
  | .term expression => expression.negationsAbove s
  | _ => []

/-- The same for a list of expressions. -/
def listNegationsAbove (s : String) : List Expr → List Nat
  | [] => []
  | element :: rest => element.negationsAbove s ++ listNegationsAbove s rest

end

end Expr

section Polarity

variable {s token : String} {l r e : Expr} {op : BinaryOperator} {f : String} {v : Value}

/-- A test that may be dropped is one on the field that its operands resolve to. -/
theorem Resolves.droppableField?_eq (h : Resolves token l r op f v) (hop : op.skippable = true) :
    Expr.droppableField? token l r = some f := by
  cases h with
  | left htoken hl hr =>
      rw [Expr.droppableField?, htoken]
      cases op with
      | compare cmp =>
          show (if l.isFieldReference then l.path? else r.path?) = some f
          rw [if_pos (Expr.isFieldReference_of_path? hl), hl]
      | among => exact hl
      | _ => cases hop
  | right htoken href hr hl =>
      rw [Expr.droppableField?, htoken]
      show (if l.isFieldReference then l.path? else r.path?) = some f
      rw [href, if_neg Bool.false_ne_true, hr]

/-- A dropped test stands under no negation of its own. -/
theorem Resolves.zero_mem_negationsAbove (h : Resolves token l r op s v)
    (hop : op.skippable = true) : 0 ∈ (Expr.binary token l r).negationsAbove s := by
  rw [Expr.negationsAbove, h.droppableField?_eq hop, if_pos rfl]
  exact List.mem_cons_self

theorem negationsAbove_left {k : Nat} (hk : k ∈ l.negationsAbove s) :
    k ∈ (Expr.binary token l r).negationsAbove s := by
  rw [Expr.negationsAbove]
  exact List.mem_append_right _ (List.mem_append_left _ hk)

theorem negationsAbove_right {k : Nat} (hk : k ∈ r.negationsAbove s) :
    k ∈ (Expr.binary token l r).negationsAbove s := by
  rw [Expr.negationsAbove]
  exact List.mem_append_right _ (List.mem_append_right _ hk)

theorem negationsAbove_not {k : Nat} (htoken : UnaryOperator.ofToken? token = some .not)
    (hk : k ∈ e.negationsAbove s) : k + 1 ∈ (Expr.unary token e).negationsAbove s := by
  rw [Expr.negationsAbove, htoken]
  exact List.mem_map_of_mem hk

/-- Erasing the tests on a field widens a clause if each of them stands under an even number of
negations, and narrows it if each stands under an odd one. The two go by one induction, since a
negation exchanges them. -/
theorem Emits.holds_erase (m : LeafMeaning) {c : Clause} (h : Emits none e c) :
    ((∀ k ∈ e.negationsAbove s, k % 2 = 0) → c.Holds m → (c.erase s).Holds m) ∧
      ((∀ k ∈ e.negationsAbove s, k % 2 = 1) → (c.erase s).Holds m → c.Holds m) := by
  induction h with
  | fulltext text => exact ⟨fun _ hc => hc, fun _ hc => hc⟩
  | filter _ ih | term _ ih => exact ih
  | not htoken _ ih =>
      obtain ⟨widens, narrows⟩ := ih
      simp only [Clause.erase, Clause.eraseList, Clause.holds_mustNot, List.mem_singleton,
        forall_eq]
      constructor
      · intro heven hc herased
        refine hc (narrows ?_ herased)
        intro k hk
        have := heven _ (negationsAbove_not htoken hk)
        omega
      · intro hodd herased hc
        refine herased (widens ?_ hc)
        intro k hk
        have := hodd _ (negationsAbove_not htoken hk)
        omega
  | and _ _ _ ihl ihr =>
      simp only [Clause.erase, Clause.eraseList, Clause.holds_must, List.forall_mem_cons]
      constructor
      · intro heven hc
        exact ⟨ihl.1 (fun k hk => heven k (negationsAbove_left hk)) hc.1,
          ihr.1 (fun k hk => heven k (negationsAbove_right hk)) hc.2.1, hc.2.2⟩
      · intro hodd hc
        exact ⟨ihl.2 (fun k hk => hodd k (negationsAbove_left hk)) hc.1,
          ihr.2 (fun k hk => hodd k (negationsAbove_right hk)) hc.2.1, hc.2.2⟩
  | or _ _ _ ihl ihr =>
      simp only [Clause.erase, Clause.eraseList, Clause.holds_should, List.mem_cons,
        List.not_mem_nil, or_false, exists_eq_or_imp, exists_eq_left]
      constructor
      · intro heven hc
        exact hc.imp (ihl.1 fun k hk => heven k (negationsAbove_left hk))
          (ihr.1 fun k hk => heven k (negationsAbove_right hk))
      · intro hodd hc
        exact hc.imp (ihl.2 fun k hk => hodd k (negationsAbove_left hk))
          (ihr.2 fun k hk => hodd k (negationsAbove_right hk))
  | test hresolves htested =>
      cases htested with
      | dropped _ hskip => cases hskip
      | kept _ htest =>
          rw [htest.erase_eq]
          split
          · rename_i hdrop
            obtain ⟨hop, rfl⟩ := hdrop
            refine ⟨fun _ _ => trivial, fun hodd _ => ?_⟩
            have := hodd 0 (hresolves.zero_mem_negationsAbove hop)
            omega
          · exact ⟨fun _ hc => hc, fun _ hc => hc⟩

end Polarity

/-- **Polarity of skipping.** Let an expression compile with and without the skip field, and take any
document. If each comparison and membership on the skip field stands under an even number of negations,
then the filter with the skip field holds wherever the one without holds; if each stands under an odd
number, then the other way round. -/
theorem compile_some_polarity (m : LeafMeaning) (s : String) (e : Expr) (g h : Compilation)
    (hg : compile none e = .ok g) (hh : compile (some s) e = .ok h) :
    ((∀ k ∈ e.negationsAbove s, k % 2 = 0) → g.filter.Holds m → h.filter.Holds m) ∧
      ((∀ k ∈ e.negationsAbove s, k % 2 = 1) → h.filter.Holds m → g.filter.Holds m) := by
  obtain ⟨hemits, hfields, _⟩ := compile_eq_ok_iff.1 hg
  have herased : compile (some s) e =
      .ok ⟨g.filter.erase s, g.fields, (g.filter.erase s).dropped (some s)⟩ :=
    compile_eq_ok_iff.2 ⟨hemits.erase s, hfields, rfl⟩
  rw [herased] at hh
  cases hh
  exact hemits.holds_erase m

/-- A document of which nothing holds but that it has no user. -/
def userlessLeaves : LeafMeaning where
  term _ _ := False
  terms _ _ := False
  range _ _ _ := False
  missing f := f = "user"
  wildcard _ _ := False
  matchPhrase _ _ := False

/-- Under two negations skipping widens the filter. -/
theorem compile_some_polarity_time :
    let e := Expr.both (.binary "==" (.field "user") .null)
      (.negate (.negate (.binary "<" (.number (.int 5)) (.field "time"))))
    let c := Clause.bool .must [.missing "user",
      .bool .mustNot [.bool .mustNot [.range "time" .gt (.number (.int 5))]]]
    let d := Clause.bool .must [.missing "user", .bool .mustNot [.bool .mustNot [.matchAll]]]
    compile none e = .ok ⟨c, ["user", "time"], []⟩ ∧
      compile (some "time") e = .ok ⟨d, ["user", "time"], ["time"]⟩ ∧
      e.negationsAbove "time" = [2] ∧ (c.Holds userlessLeaves → d.Holds userlessLeaves) := by
  intro e c d
  have hc : compile none e = .ok ⟨c, ["user", "time"], []⟩ := rfl
  have hd : compile (some "time") e = .ok ⟨d, ["user", "time"], ["time"]⟩ := rfl
  have hdepths : e.negationsAbove "time" = [2] := rfl
  refine ⟨hc, hd, hdepths, ?_⟩
  refine (compile_some_polarity userlessLeaves "time" e _ _ hc hd).1 ?_
  rw [hdepths]
  decide

end FilterQuery
