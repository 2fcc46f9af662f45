import FilterQuery.Proofs.ClauseShape
import FilterQuery.Proofs.ErrorCause
import FilterQuery.Proofs.FieldUsage

/-!
# The fields of a filter

The filter and the record of fields come out of one walk, but by different ways: a name is recorded where a
field is visited, and it gets into the filter where a test is built, or into the record of dropped tests
where none is. This module follows the names back. What a place of the filter is about is the path of an
operand; an operand that is a field has been recorded, and the name of any other one is that of a path of
the expression (`Expr.Names`).

A place that matches everything stands for a test that was dropped, and so it is about the skip field
(`Clause.subject?`). This makes the dropped tests a case of the same statement.

## Main results

* `Emits.names` — every place of an emitted clause is about a field or a path of the expression.
* `compile_names` — the same of a compilation and its records.
-/

namespace FilterQuery

/-! ## The names of a clause -/

namespace Clause

/-- The field that a clause tests by itself. A phrase is searched in all fields and tests none. -/
def field? : Clause → Option String
  | .term field _ => some field
  | .terms field _ => some field
  | .range field _ _ => some field
  | .missing field => some field
  | .wildcard field _ => some field
  | _ => none

/-- Some place of the clause tests the field. -/
def Tests (c : Clause) (f : String) : Prop :=
  ∃ d : Clause, d.Subclause c ∧ d.field? = some f

/-- What a place of a filter is about: the field that it tests, or the skip field if it stands for a test
that was dropped. -/
def subject? (skip? : Option String) : Clause → Option String
  | .matchAll => skip?
  | c => c.field?

variable {skip? : Option String} {c : Clause} {f : String}

theorem subject?_of_field? (h : c.field? = some f) : c.subject? skip? = some f := by
  cases c with
  | matchAll => cases h
  | _ => exact h

theorem exists_of_listMatchAllCount {clauses : List Clause} (h : listMatchAllCount clauses ≠ 0) :
    ∃ c ∈ clauses, c.matchAllCount ≠ 0 := by
  induction clauses with
  | nil => exact absurd rfl h
  | cons c rest ih =>
      by_cases hc : c.matchAllCount = 0
      · rw [listMatchAllCount, hc, Nat.zero_add] at h
        obtain ⟨d, hd, hcount⟩ := ih h
        exact ⟨d, List.mem_cons_of_mem _ hd, hcount⟩
      · exact ⟨c, List.mem_cons_self, hc⟩

theorem matchAll_subclause (h : c.matchAllCount ≠ 0) : Clause.matchAll.Subclause c := by
  induction c with
  | matchAll => exact .refl
  | bool occur clauses ih =>
      obtain ⟨child, hchild, hcount⟩ := exists_of_listMatchAllCount h
      exact .bool hchild (ih child hchild hcount)
  | not clause ih => exact .not (ih h)
  | _ => exact absurd rfl h

/-- A test that was dropped has left a place that is about its field. -/
theorem exists_subject_of_mem_dropped (h : f ∈ c.dropped skip?) :
    ∃ d : Clause, d.Subclause c ∧ d.subject? skip? = some f := by
  cases skip? with
  | none => cases h
  | some s =>
      obtain ⟨hcount, rfl⟩ := List.mem_replicate.1 h
      exact ⟨.matchAll, matchAll_subclause hcount, rfl⟩

end Clause

/-! ## The names of an expression -/

namespace Expr

/-- The name is that of a path somewhere in the expression. -/
def HasPath (e : Expr) (f : String) : Prop :=
  ∃ object property, .member object property ∈ e.nodes ∧
    (Expr.member object property).path? = some f

/-- The name is that of a field or of a path of the expression. -/
def Names (e : Expr) (f : String) : Prop :=
  f ∈ e.fieldNames ∨ e.HasPath f

variable {e part l r : Expr} {f token : String}

/-- What a part names the whole names. -/
theorem Names.mono (h : part.Names f) (hfields : ∀ name ∈ part.fieldNames, name ∈ e.fieldNames)
    (hnodes : ∀ d ∈ part.nodes, d ∈ e.nodes) : e.Names f := by
  rcases h with h | ⟨object, property, hmember, hpath⟩
  · exact .inl (hfields f h)
  · exact .inr ⟨object, property, hnodes _ hmember, hpath⟩

theorem Names.left (h : l.Names f) : (Expr.binary token l r).Names f := by
  refine h.mono ?_ ?_
  · intro name hname
    rw [(fieldNames_binary_perm token l r).mem_iff]
    exact List.mem_append_left _ hname
  · intro d hd
    exact List.mem_cons_of_mem _ (List.mem_append_left _ hd)

theorem Names.right (h : r.Names f) : (Expr.binary token l r).Names f := by
  refine h.mono ?_ ?_
  · intro name hname
    rw [(fieldNames_binary_perm token l r).mem_iff]
    exact List.mem_append_right _ hname
  · intro d hd
    exact List.mem_cons_of_mem _ (List.mem_append_right _ hd)

/-- A field reference names its path. -/
theorem names_of_path? (h : e.path? = some f) : e.Names f := by
  cases e with
  | field name =>
      cases h
      exact .inl List.mem_cons_self
  | member object property => exact .inr ⟨object, property, self_mem_nodes _, h⟩
  | _ => cases h

end Expr

/-! ## From the filter back to the expression -/

section Emitted

variable {skip? : Option String} {e l r : Expr} {token f g : String} {op : BinaryOperator} {v : Value}
  {c d : Clause}

/-- A test that is kept is about its field, at every place of its clause that is about a field. -/
theorem TestClause.subject?_eq (h : TestClause op f v c) (hd : d.Subclause c)
    (hsubject : d.subject? skip? = some g) : g = f := by
  cases h with
  | term | missing | range | wildcard | terms =>
      cases hd
      exact (Option.some.inj hsubject).symm
  | notTerm | notMissing | notWildcard =>
      cases hd with
      | refl => cases hsubject
      | not hd =>
          cases hd
          exact (Option.some.inj hsubject).symm

/-- A test is about its field also if it was dropped. -/
theorem Tested.subject?_eq (h : Tested skip? op f v c) (hd : d.Subclause c)
    (hsubject : d.subject? skip? = some g) : g = f := by
  cases h with
  | kept _ htest => exact htest.subject?_eq hd hsubject
  | dropped _ hskip =>
      cases hd
      exact Option.some.inj (hsubject.symm.trans hskip)

/-- The field of a test is that of one of its operands. -/
theorem Resolves.names (h : Resolves token l r op f v) : (Expr.binary token l r).Names f := by
  cases h with
  | left _ hpath _ => exact (Expr.names_of_path? hpath).left
  | right _ _ hpath _ => exact (Expr.names_of_path? hpath).right

/-- Every place of an emitted clause is about a field or a path of the expression. -/
theorem Emits.names (h : Emits skip? e c) (hd : d.Subclause c)
    (hsubject : d.subject? skip? = some g) : e.Names g := by
  induction h with
  | fulltext text =>
      cases hd
      cases hsubject
  | filter _ ih | term _ ih =>
      exact (ih hd).mono (fun _ hname => hname) fun _ => List.mem_cons_of_mem _
  | not _ _ ih =>
      cases hd with
      | refl => cases hsubject
      | bool hchild hd =>
          cases List.mem_singleton.1 hchild
          exact (ih hd).mono (fun _ hname => hname) fun _ => List.mem_cons_of_mem _
  | and _ _ _ ihl ihr | or _ _ _ ihl ihr =>
      cases hd with
      | refl => cases hsubject
      | bool hchild hd =>
          rcases List.mem_cons.1 hchild with rfl | hchild
          · exact (ihl hd).left
          · cases List.mem_singleton.1 hchild
            exact (ihr hd).right
  | test hresolves htested =>
      rw [htested.subject?_eq hd hsubject]
      exact hresolves.names

end Emitted

namespace Compilation

variable {r : Compilation} {f : String}

/-- A recorded field is referred to, and the usage of fields lists it. -/
theorem listed_of_mem_fields (h : f ∈ r.fields) :
    r.references f = true ∧ f ∈ r.usage.map FieldUsage.field := by
  refine ⟨List.contains_iff_mem.2 h, ?_⟩
  rw [usage, map_field_usageOf]
  exact (mem_distinct r.fields f).2 h

end Compilation

/-- **Every field of a filter is accounted for.** A field that is tested at some place of a compiled filter,
or of which a test was dropped, is in the record of fields or is the name of a path of the expression. So
without paths, the compilation refers to the field and its usage of fields lists it. -/
theorem compile_names (skip? : Option String) (e : Expr) (r : Compilation)
    (h : compile skip? e = .ok r) :
    (∀ f, r.filter.Tests f ∨ f ∈ r.skipped → f ∈ r.fields ∨ e.HasPath f) ∧
      ((∀ object property, .member object property ∉ e.nodes) →
        ∀ f, r.filter.Tests f ∨ f ∈ r.skipped →
          r.references f = true ∧ f ∈ r.usage.map FieldUsage.field) := by
  obtain ⟨hemits, hfields, hskipped⟩ := compile_eq_ok_iff.1 h
  have hnames : ∀ f, r.filter.Tests f ∨ f ∈ r.skipped → f ∈ r.fields ∨ e.HasPath f := by
    intro f hf
    rw [← hfields]
    rcases hf with ⟨d, hd, hfield⟩ | hdropped
    · exact hemits.names hd (Clause.subject?_of_field? hfield)
    · rw [← hskipped] at hdropped
      obtain ⟨d, hd, hsubject⟩ := Clause.exists_subject_of_mem_dropped hdropped
      exact hemits.names hd hsubject
  refine ⟨hnames, ?_⟩
  intro hnone f hf
  rcases hnames f hf with hmem | ⟨object, property, hmember, _⟩
  · exact Compilation.listed_of_mem_fields hmem
  · exact absurd hmember (hnone object property)

/-- A test under two negations beside a dropped one, which would be in error otherwise, and a test of a
path, which is not in the record of fields. -/
theorem compile_names_dropped :
    let e := Expr.both (.negate (.binary "!=" (.string "debug") (.field "level")))
      (.binary "<" (.field "time") .null)
    let c := Clause.bool .must [.bool .mustNot [.not (.term "level" (.string "debug"))], .matchAll]
    let r : Compilation := ⟨c, ["level", "time"], ["time"]⟩
    let path := Expr.binary "==" (.member (.field "host") (.string "name")) .null
    compile (some "time") e = .ok r ∧ c.Tests "level" ∧
      (r.references "level" = true ∧ "level" ∈ r.usage.map FieldUsage.field) ∧
      (r.references "time" = true ∧ "time" ∈ r.usage.map FieldUsage.field) ∧
      compile none path = .ok ⟨.missing "host.name", ["host"], []⟩ ∧
      ("host.name" ∈ ["host"] ∨ path.HasPath "host.name") := by
  intro e c r path
  have hcompile : compile (some "time") e = .ok r := rfl
  have hlevel : c.Tests "level" :=
    ⟨_, .bool List.mem_cons_self (.bool List.mem_cons_self (.not .refl)), rfl⟩
  have hnone : ∀ object property, Expr.member object property ∉ e.nodes := by
    intro object property h
    simp [e, Expr.both, Expr.negate, Expr.nodes] at h
  have hlisted := (compile_names (some "time") e r hcompile).2 hnone
  have hpath : compile none path = .ok ⟨.missing "host.name", ["host"], []⟩ := rfl
  exact ⟨hcompile, hlevel, hlisted "level" (.inl hlevel), hlisted "time" (.inr List.mem_cons_self),
    hpath, (compile_names none path _ hpath).1 "host.name" (.inl ⟨_, .refl, rfl⟩)⟩

end FilterQuery
