import FilterQuery.Proofs.JunctionOrder
import FilterQuery.Proofs.Grammar
import FilterQuery.Proofs.Rewriting

/-!
# Paths as names

A path joins the texts of its two parts by a dot, and these parts may be paths again, or any other values.
What comes out is a name like that of a field, and nothing that is done with it later asks how it was
written. So a path can be replaced by the field of its name (`Expr.Flattened`), which changes the record of
fields and nothing else, and its parts can be grouped from the left or from the right
(`Expr.Regroups`), which changes nothing at all.

The two differ in what they need. A path with a part that is no value has no name, so that the first
statement is about expressions that compile, and there every path has a name. Grouping holds of parts
that are in error too: they are visited in the same order, and the first error is the same.

## Main results

* `Emits.exists_path?` — in an expression that emits a clause every field reference has a path.
* `compile_flattened` — paths and fields of the same name have the same filter.
* `Walk.visit_member_assoc` — the parts of a path are visited alike in either grouping.
* `compile_regrouped` — regrouping paths keeps the compilation or the error.
-/

namespace FilterQuery

/-! ## Every path has a name -/

section Resolved

variable {skip? : Option String} {e d l r : Expr} {c : Clause}

/-- The nodes of an expression that denotes a value denote values. -/
theorem Expr.IsValue.of_mem_nodes (h : e.IsValue) : ∀ d ∈ e.nodes, d.IsValue := by
  induction h with
  | null | boolean | number | string | moment | duration | field =>
      intro d hd
      cases List.mem_singleton.1 hd
      constructor
  | filter he ih =>
      intro d hd
      rcases List.mem_cons.1 hd with rfl | hd
      · exact .filter he
      · exact ih d hd
  | term he ih =>
      intro d hd
      rcases List.mem_cons.1 hd with rfl | hd
      · exact .term he
      · exact ih d hd
  | member hobject hproperty iho ihp =>
      intro d hd
      rcases List.mem_cons.1 hd with rfl | hd
      · exact .member hobject hproperty
      · rcases List.mem_append.1 hd with hd | hd
        · exact iho d hd
        · exact ihp d hd
  | array helements ih =>
      intro d hd
      rcases List.mem_cons.1 hd with rfl | hd
      · exact .array helements
      · obtain ⟨element, helement, hd⟩ := Expr.exists_of_mem_listNodes hd
        exact ih element helement d hd

/-- Both operands of a test denote values. -/
theorem Resolves.isValue {token f : String} {op : BinaryOperator} {v : Value}
    (h : Resolves token l r op f v) : l.IsValue ∧ r.IsValue := by
  obtain ⟨hl, hr⟩ := h.value?_isSome
  exact ⟨l.isValue_iff.2 (Option.ne_none_iff_exists'.1 hl),
    r.isValue_iff.2 (Option.ne_none_iff_exists'.1 hr)⟩

/-- In an expression that emits a clause every field reference has a path. -/
theorem Emits.exists_path? (h : Emits skip? e c) (hd : d ∈ e.nodes)
    (href : d.isFieldReference = true) : ∃ p, d.path? = some p := by
  induction h with
  | fulltext text =>
      cases List.mem_singleton.1 hd
      cases href
  | filter _ ih | term _ ih | not _ _ ih =>
      rcases List.mem_cons.1 hd with rfl | hd
      · cases href
      · exact ih hd
  | and _ _ _ ihl ihr | or _ _ _ ihl ihr =>
      rcases List.mem_cons.1 hd with rfl | hd
      · cases href
      · rcases List.mem_append.1 hd with hd | hd
        · exact ihl hd
        · exact ihr hd
  | test hresolves _ =>
      obtain ⟨hl, hr⟩ := hresolves.isValue
      rcases List.mem_cons.1 hd with rfl | hd
      · cases href
      · rcases List.mem_append.1 hd with hd | hd
        · exact exists_path?_of_isValue href (hl.of_mem_nodes d hd)
        · exact exists_path?_of_isValue href (hr.of_mem_nodes d hd)

end Resolved

/-! ## Paths as fields -/

namespace Expr

/-- A path becomes the field with its name. -/
inductive Flattens : Expr → Expr → Prop
  | path {object property name} : (Expr.member object property).path? = some name →
      Flattens (.member object property) (.field name)

/-- Any paths of the expression become fields, one after the other. Their order does not matter: a path
keeps its name when a path inside it becomes a field. -/
def Flattened : Expr → Expr → Prop :=
  Relation.ReflTransGen (Rewrites Flattens)

variable {skip? : Option String} {e e' : Expr}

/-- A path and the field with its name have the same value, and neither emits a clause. -/
theorem Flattens.meantAlike (h : Flattens e e') : MeantAlike skip? e e' := by
  cases h with
  | path hpath =>
      refine ⟨rfl, ?_, ?_⟩
      · rw [(path?_eq_some_iff.1 hpath).2, value?]
      · intro c hc
        cases hc

theorem Flattened.emits (h : Flattened e e') {c : Clause} (hc : Emits skip? e c) :
    Emits skip? e' c := by
  induction h with
  | refl => exact hc
  | tail _ hstep ih => exact (hstep.meantAlike fun _ _ => Flattens.meantAlike).emits c ih

end Expr

/-- **A path is the field of its name.** In an expression that compiles every path has a name, and with
any of its paths replaced by the fields of their names it compiles to the same filter, with the same tests
dropped. -/
theorem compile_flattened (skip? : Option String) (e : Expr) (r : Compilation)
    (h : compile skip? e = .ok r) :
    (∀ object property, .member object property ∈ e.nodes →
      ∃ name, (Expr.member object property).path? = some name) ∧
    ∀ e', e.Flattened e' →
      ∃ r', compile skip? e' = .ok r' ∧ r'.filter = r.filter ∧ r'.skipped = r.skipped := by
  obtain ⟨hemits, _, hskipped⟩ := compile_eq_ok_iff.1 h
  refine ⟨?_, ?_⟩
  · intro object property hmember
    exact hemits.exists_path? hmember rfl
  · intro e' hflattened
    exact ⟨⟨r.filter, e'.fieldNames, r.skipped⟩,
      compile_eq_ok_iff.2 ⟨hflattened.emits hemits, rfl, hskipped⟩, rfl, rfl⟩

/-- A path of two levels on the right of a comparison, one that names the skip field, and one in an array
that stays as it is. -/
theorem compile_flattened_nested :
    let host := Expr.member (.member (.field "host") (.number (.int 1))) (.array [.null, .field "name"])
    let time := Expr.member (.field "time") (.string "at")
    let kinds := Expr.binary "in" (.field "kind") (.array [.member (.field "a") (.boolean true)])
    let e := Expr.both (.binary "==" (.string "web") host) (.either (.binary "<" time .null) kinds)
    let e' := Expr.both (.binary "==" (.string "web") (.field "host.1.null,name"))
      (.either (.binary "<" (.field "time.at") .null) kinds)
    let r : Compilation := ⟨.bool .must [.term "host.1.null,name" (.string "web"),
      .bool .should [.matchAll, .terms "kind" [.string "a.true"]]],
      ["host", "name", "time", "kind", "a"], ["time.at"]⟩
    compile (some "time.at") e = .ok r ∧ e.Flattened e' ∧
      ∃ r', compile (some "time.at") e' = .ok r' ∧ r'.filter = r.filter ∧
        r'.skipped = ["time.at"] := by
  intro host time kinds e e' r
  have hcompile : compile (some "time.at") e = .ok r := rfl
  have hhost : Expr.Rewrites Expr.Flattens e
      (.both (.binary "==" (.string "web") (.field "host.1.null,name"))
        (.either (.binary "<" time .null) kinds)) :=
    .left (.right (.here (.path rfl)))
  have hflattened : e.Flattened e' :=
    (Relation.ReflTransGen.single hhost).tail (.right (.left (.left (.here (.path rfl)))))
  obtain ⟨_, hall⟩ := compile_flattened (some "time.at") e r hcompile
  exact ⟨hcompile, hflattened, hall e' hflattened⟩

/-! ## Grouping the parts of a path -/

namespace Walk

variable {skip? : Option String}

/-- The parts of a path are visited in the same order and joined to the same name, whichever two of them
are grouped. -/
theorem visit_member_assoc (a b c : Expr) :
    visit skip? (.member (.member a b) c) = visit skip? (.member a (.member b c)) := by
  have hvalue (v : Value) : (liftM ((Outcome.value v).toValue .memberPart) : Walk Value) = pure v :=
    rfl
  have htext (name : String) : (Value.string name).text = name := by rw [Value.text]
  simp only [visit, bind_assoc, pure_bind, hvalue, htext, String.append_assoc]

end Walk

namespace Expr

/-- The parts of a path are grouped from the right instead of from the left. -/
inductive Regroups : Expr → Expr → Prop
  | member (a b c : Expr) : Regroups (.member (.member a b) c) (.member a (.member b c))

variable {skip? : Option String} {e e' : Expr}

theorem Regroups.visitedAlike (h : Regroups e e') : VisitedAlike skip? e e' := by
  cases h with
  | member a b c => exact ⟨rfl, (Walk.visit_member_assoc a b c).symm⟩

end Expr

/-- **Paths are associative.** However its paths are grouped, an expression has the same compilation, in
its filter and in both of its records, or fails with the same error. -/
theorem compile_regrouped (skip? : Option String) (e e' : Expr) (h : Expr.Interchanged Expr.Regroups e e') :
    compile skip? e' = compile skip? e := by
  have hvisit : Walk.visit skip? e = Walk.visit skip? e' :=
    h.map_eq (Walk.visit skip?) fun d d' hstep =>
      (hstep.visitedAlike fun _ _ => Expr.Regroups.visitedAlike).visit.symm
  rw [compile, compile, hvisit]

/-- Two paths of three parts change their groupings, one from the left to the right and the other back.
The first one names the skip field. -/
theorem compile_regrouped_both :
    let a := Expr.field "a"
    let b := Expr.number (.int 2)
    let c := Expr.array [.field "c", .null]
    let e := Expr.both (.binary ">" .null (.member (.member a b) c))
      (.binary "=~" (.member a (.member c b)) a)
    let e' := Expr.both (.binary ">" .null (.member a (.member b c)))
      (.binary "=~" (.member (.member a c) b) a)
    let r : Compilation := ⟨.bool .must [.matchAll, .wildcard "a.c,null.2" "a"],
      ["a", "c", "a", "c", "a"], ["a.2.c,null"]⟩
    Expr.Interchanged Expr.Regroups e e' ∧ compile (some "a.2.c,null") e = .ok r ∧
      compile (some "a.2.c,null") e' = .ok r := by
  intro a b c e e' r
  let right := Expr.both (.binary ">" .null (.member a (.member b c)))
    (.binary "=~" (.member a (.member c b)) a)
  have hfirst : Expr.Rewrites Expr.Regroups e right := .left (.right (.here (.member a b c)))
  have hsecond : Expr.Rewrites Expr.Regroups e' right := .right (.left (.here (.member a c b)))
  have hregrouped : Expr.Interchanged Expr.Regroups e e' :=
    .trans e right e' (.rel _ _ hfirst) (.symm _ _ (.rel _ _ hsecond))
  have hcompile : compile (some "a.2.c,null") e = .ok r := rfl
  exact ⟨hregrouped, hcompile, (compile_regrouped _ e e' hregrouped).trans hcompile⟩

end FilterQuery
