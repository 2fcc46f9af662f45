import FilterQuery.Proofs.WalkRules

/-!
# The record of fields

The walk visits the two operands of a comparison in an order that depends on where the field stands,
and it does not build a clause for a test that it drops. Neither loses a field: the record of a
compilation is `Expr.fieldNames`, whatever the skip field is, and it has one entry for each field node
of the tree (`compile_fields`).

The nodes of a tree are listed from the outside in and from left to right (`Expr.nodes`), without
regard to operators, so that the second statement does not depend on the order of the visit.
-/

namespace FilterQuery

namespace Expr

mutual

/-- All nodes of an expression: the expression itself, then the nodes of its parts in their order. -/
def nodes : Expr → List Expr
  | .filter ast => .filter ast :: ast.nodes
  | .array elements => .array elements :: listNodes elements
  | .unary token argument => .unary token argument :: argument.nodes
  | .member object property => .member object property :: (object.nodes ++ property.nodes)
  | .binary token left right => .binary token left right :: (left.nodes ++ right.nodes)
  | .term expression => .term expression :: expression.nodes
  | e => [e]

/-- All nodes of a list of expressions. -/
def listNodes : List Expr → List Expr
  | [] => []
  | element :: rest => element.nodes ++ listNodes rest

end

/-- The nodes of an element are nodes of the list. -/
theorem mem_listNodes {d e : Expr} {elements : List Expr} (he : e ∈ elements) (hd : d ∈ e.nodes) :
    d ∈ listNodes elements := by
  induction elements with
  | nil => cases he
  | cons first elements ih =>
      rw [listNodes, List.mem_append]
      rcases List.mem_cons.1 he with rfl | he
      · exact .inl hd
      · exact .inr (ih he)

theorem exists_of_mem_listNodes {d : Expr} {elements : List Expr} (hd : d ∈ listNodes elements) :
    ∃ e ∈ elements, d ∈ e.nodes := by
  induction elements with
  | nil => cases hd
  | cons first elements ih =>
      rw [listNodes, List.mem_append] at hd
      rcases hd with hd | hd
      · exact ⟨first, List.mem_cons_self, hd⟩
      · obtain ⟨e, he, hd⟩ := ih hd
        exact ⟨e, List.mem_cons_of_mem _ he, hd⟩

/-- The name of a node that is a field. A path is none: its parts are nodes of their own. -/
def fieldName? : Expr → Option String
  | .field name => some name
  | _ => none

/-- The names of all field nodes of an expression, from left to right. -/
def fieldNodeNames (e : Expr) : List String :=
  e.nodes.filterMap fieldName?

/-- The operands of an operator are visited in one order or the other. -/
theorem fieldNames_binary (token : String) (l r : Expr) :
    (Expr.binary token l r).fieldNames = l.fieldNames ++ r.fieldNames ∨
      (Expr.binary token l r).fieldNames = r.fieldNames ++ l.fieldNames := by
  rw [fieldNames]
  split
  · split
    · exact .inl rfl
    · exact .inr rfl
  · exact .inl rfl

theorem fieldNames_binary_perm (token : String) (l r : Expr) :
    (Expr.binary token l r).fieldNames.Perm (l.fieldNames ++ r.fieldNames) := by
  rcases fieldNames_binary token l r with horder | horder
  · rw [horder]
  · rw [horder]
    exact List.perm_append_comm

theorem listFieldNames_perm {elements : List Expr}
    (helements : ∀ e ∈ elements, e.fieldNames.Perm e.fieldNodeNames) :
    (listFieldNames elements).Perm ((listNodes elements).filterMap fieldName?) := by
  induction elements with
  | nil => exact .nil
  | cons e rest ih =>
      have hhead := helements e List.mem_cons_self
      have htail := ih fun e' he' => helements e' (List.mem_cons_of_mem _ he')
      rw [listFieldNames, listNodes, List.filterMap_append]
      exact hhead.append htail

/-- The order of the visit has every field node once. -/
theorem fieldNames_perm (e : Expr) : e.fieldNames.Perm e.fieldNodeNames := by
  induction e with
  | null | boolean | number | string | moment | duration | fulltext => exact .nil
  | field name => exact .refl _
  | filter ast ih | term ast ih => exact ih
  | unary token argument ih => exact ih
  | array elements ih => exact listFieldNames_perm ih
  | member object property iho ihp =>
      show (object.fieldNames ++ property.fieldNames).Perm
        ((object.nodes ++ property.nodes).filterMap fieldName?)
      rw [List.filterMap_append]
      exact iho.append ihp
  | binary token l r ihl ihr =>
      have hparts : (l.fieldNames ++ r.fieldNames).Perm
          (Expr.binary token l r).fieldNodeNames := by
        show List.Perm _ ((l.nodes ++ r.nodes).filterMap fieldName?)
        rw [List.filterMap_append]
        exact ihl.append ihr
      exact (fieldNames_binary_perm token l r).trans hparts

end Expr

/-- **The record of fields is exact.** A compilation records the fields of its expression in the order
of the visit, with any skip field and with none, and has one entry for each field node of the tree. -/
theorem compile_fields (skip? : Option String) (e : Expr) (r : Compilation)
    (h : compile skip? e = .ok r) :
    r.fields = e.fieldNames ∧ r.fields.Perm e.fieldNodeNames ∧
      ∀ (other? : Option String) (r' : Compilation), compile other? e = .ok r' →
        r'.fields = r.fields := by
  obtain ⟨_, hfields, _⟩ := compile_eq_ok_iff.1 h
  refine ⟨hfields.symm, hfields ▸ e.fieldNames_perm, ?_⟩
  intro other? r' h'
  obtain ⟨_, hfields', _⟩ := compile_eq_ok_iff.1 h'
  exact hfields'.symm.trans hfields

/-- A field on the right, two in a path and some in arrays, beside a dropped comparison, which would be
in error if it were kept. -/
theorem compile_fields_paths :
    let e := Expr.both
      (.binary "<" (.array [.field "low", .field "time"]) (.field "time"))
      (.binary "in" (.member (.field "user") (.field "key")) (.array [.field "low"]))
    let fields := ["time", "low", "time", "user", "key", "low"]
    let c := Clause.bool .must [.matchAll, .terms "user.key" [.string "low"]]
    compile (some "time") e = .ok ⟨c, fields, ["time"]⟩ ∧
      fields = e.fieldNames ∧ fields.Perm ["low", "time", "time", "user", "key", "low"] := by
  intro e fields c
  have hcompile : compile (some "time") e = .ok ⟨c, fields, ["time"]⟩ := rfl
  obtain ⟨hfields, hperm, _⟩ := compile_fields (some "time") e ⟨c, fields, ["time"]⟩ hcompile
  exact ⟨hcompile, hfields, hperm⟩

end FilterQuery
