import FilterQuery.Proofs.WalkRules

/-!
# What filters and expressions mean

A clause and an expression both say something about a document of the index. The meaning of a clause
follows its form; the meaning of an expression follows the operands *in the order in which they are
written*, with the field on either side. Compilation moves the field to the left, turns equality with
null into the absence of the field and has two ways to negate: `compile_holds_iff` states that none
of this changes what the expression says, as long as no skip field is set.

The leaves of a clause are kept apart (`LeafMeaning`), so that the boolean part of the meaning can
be used with leaves that are not tests of a document.

## Main results

* `compares_mirror` — the mirrored comparison says the same of the operands in the other order.
* `TestClause.holds_compare_iff` — the clause of a comparison says what the comparison says.
* `compile_holds_iff` — a compiled filter and its expression hold of the same documents.
-/

namespace FilterQuery

/-! ## Clauses -/

/-- What the leaves of a clause say about one document. -/
structure LeafMeaning where
  term : String → Value → Prop
  terms : String → List Value → Prop
  range : String → Bound → Value → Prop
  missing : String → Prop
  wildcard : String → String → Prop
  matchPhrase : String → String → Prop

namespace Clause

mutual

/-- What a clause says, given what its leaves say. -/
def Holds (m : LeafMeaning) : Clause → Prop
  | .matchAll => True
  | .bool .must clauses => AllHold m clauses
  | .bool .should clauses => AnyHolds m clauses
  | .bool .mustNot clauses => ¬ AnyHolds m clauses
  | .not clause => ¬ clause.Holds m
  | .term field value => m.term field value
  | .terms field values => m.terms field values
  | .range field bound value => m.range field bound value
  | .missing field => m.missing field
  | .wildcard field pattern => m.wildcard field pattern
  | .matchPhrase field text => m.matchPhrase field text

/-- Every clause of a list holds. -/
def AllHold (m : LeafMeaning) : List Clause → Prop
  | [] => True
  | clause :: rest => clause.Holds m ∧ AllHold m rest

/-- Some clause of a list holds. -/
def AnyHolds (m : LeafMeaning) : List Clause → Prop
  | [] => False
  | clause :: rest => clause.Holds m ∨ AnyHolds m rest

end

variable {m : LeafMeaning} {clauses : List Clause}

theorem allHold_iff : AllHold m clauses ↔ ∀ c ∈ clauses, c.Holds m := by
  induction clauses with
  | nil => simp [AllHold]
  | cons c rest ih => simp [AllHold, ih]

theorem anyHolds_iff : AnyHolds m clauses ↔ ∃ c ∈ clauses, c.Holds m := by
  induction clauses with
  | nil => simp [AnyHolds]
  | cons c rest ih => simp [AnyHolds, ih]

@[simp] theorem holds_must : (Clause.bool .must clauses).Holds m ↔ ∀ c ∈ clauses, c.Holds m := by
  rw [Holds, allHold_iff]

@[simp] theorem holds_should :
    (Clause.bool .should clauses).Holds m ↔ ∃ c ∈ clauses, c.Holds m := by
  rw [Holds, anyHolds_iff]

@[simp] theorem holds_mustNot :
    (Clause.bool .mustNot clauses).Holds m ↔ ∀ c ∈ clauses, ¬ c.Holds m := by
  rw [Holds, anyHolds_iff]
  simp only [not_exists, not_and]

@[simp] theorem holds_not {c : Clause} : (Clause.not c).Holds m ↔ ¬ c.Holds m := by
  rw [Holds]

end Clause

/-! ## Documents -/

/-- A document of the index, with the relations by which the engine compares values. Only equality
is known to be symmetric. Membership, wildcards and phrases are asked of a path, since a path may
stand for more than one stored value. -/
structure IndexedDocument where
  lookup : String → Option Value
  eq : Value → Value → Prop
  eq_symm : ∀ a b, eq a b → eq b a
  lt : Value → Value → Prop
  le : Value → Value → Prop
  among : String → List Value → Prop
  glob : String → String → Prop
  phrase : String → String → Prop

/-- One side of a comparison: what the document stores under a path, or a literal. -/
inductive Side where
  | stored (value? : Option Value)
  | literal (value : Value)

/-- The value of a side, which a document may lack. -/
def Side.value? : Side → Option Value
  | .stored v? => v?
  | .literal v => some v

namespace IndexedDocument

variable (d : IndexedDocument)

/-- The order that a bound asks of two values, from left to right. -/
def Orders : Bound → Value → Value → Prop
  | .lt, a, b => d.lt a b
  | .gt, a, b => d.lt b a
  | .lte, a, b => d.le a b
  | .gte, a, b => d.le b a

/-- Equality of two sides. Equality with null says that nothing is stored. -/
def Equal : Side → Side → Prop
  | .stored v?, .literal .null => v? = none
  | .literal .null, .stored v? => v? = none
  | a, b => ∃ x y, a.value? = some x ∧ b.value? = some y ∧ d.eq x y

/-- A comparison of two sides, from left to right. -/
def Compares : Comparison → Side → Side → Prop
  | .equal, a, b => d.Equal a b
  | .notEqual, a, b => ¬ d.Equal a b
  | .within bound, a, b => ∃ x y, a.value? = some x ∧ b.value? = some y ∧ d.Orders bound x y

/-- The sides of a comparison as they are written. A field reference is the field if it stands on the
left or if there is none on the left; otherwise it is a literal, and denotes its path. -/
def sides (l r : Expr) : Option (Side × Side) :=
  if l.isFieldReference then
    l.path?.bind fun p => r.value?.map fun v => (.stored (d.lookup p), .literal v)
  else if r.isFieldReference then
    r.path?.bind fun p => l.value?.map fun v => (.literal v, .stored (d.lookup p))
  else none

/-- What the leaves of a clause say about the document. -/
def leaves : LeafMeaning where
  term f v := ∃ x, d.lookup f = some x ∧ d.eq x v
  terms f vs := d.among f vs
  range f bound v := ∃ x, d.lookup f = some x ∧ d.Orders bound x v
  missing f := d.lookup f = none
  wildcard f pattern := d.glob f pattern
  matchPhrase f text := d.phrase f text

end IndexedDocument

/-- What a filter expression says about a document. Only the meaning of an expression that compiles is
of importance; any other one has the truth value that its form happens to give. -/
def Expr.Holds (d : IndexedDocument) : Expr → Prop
  | .filter ast => ast.Holds d
  | .term expression => expression.Holds d
  | .fulltext text => d.phrase Clause.allFields text
  | .unary token argument =>
    match UnaryOperator.ofToken? token with
    | some .not => ¬ argument.Holds d
    | none => False
  | .binary token l r =>
    match BinaryOperator.ofToken? token with
    | some .and => l.Holds d ∧ r.Holds d
    | some .or => l.Holds d ∨ r.Holds d
    | some (.compare cmp) => ∃ a b, d.sides l r = some (a, b) ∧ d.Compares cmp a b
    | some .like => ∃ p s, l.path? = some p ∧ r.value? = some (.string s) ∧ d.glob p s
    | some .unlike => ¬ ∃ p s, l.path? = some p ∧ r.value? = some (.string s) ∧ d.glob p s
    | some .among => ∃ p vs, l.path? = some p ∧ r.value? = some (.array vs) ∧ d.among p vs
    | none => False
  | _ => False

/-! ## Comparisons -/

section Comparisons

variable {d : IndexedDocument}

/-- A bound and its mirror ask the same of the values in the other order. -/
theorem orders_mirror {bound : Bound} {x y : Value} :
    d.Orders bound.mirror y x ↔ d.Orders bound x y := by
  cases bound <;> exact Iff.rfl

/-- Equality does not depend on the order of the sides. This is the only use of the symmetry of the
engine's equality. -/
theorem equal_comm {a b : Side} : d.Equal a b → d.Equal b a := by
  intro h
  unfold IndexedDocument.Equal at h ⊢
  split at h
  · exact h
  · exact h
  · obtain ⟨x, y, hx, hy, hxy⟩ := h
    -- Neither side is null beside a stored one, so the goal is in its last case too.
    split
    · simp_all
    · simp_all
    · exact ⟨y, x, hy, hx, d.eq_symm x y hxy⟩

/-- The mirrored comparison says the same of the sides in the other order. -/
theorem compares_mirror {cmp : Comparison} {a b : Side} :
    d.Compares cmp.mirror b a ↔ d.Compares cmp a b := by
  cases cmp with
  | equal => exact ⟨equal_comm, equal_comm⟩
  | notEqual => exact not_congr ⟨equal_comm, equal_comm⟩
  | within bound =>
      constructor
      · intro h
        obtain ⟨y, x, hy, hx, horder⟩ := h
        exact ⟨x, y, hx, hy, orders_mirror.1 horder⟩
      · intro h
        obtain ⟨x, y, hx, hy, horder⟩ := h
        exact ⟨y, x, hy, hx, orders_mirror.2 horder⟩

/-- Equality with a scalar is equality with what is stored. -/
theorem equal_stored_scalar {v? : Option Value} {v : Value} (hv : v.isScalar = true) :
    d.Equal (.stored v?) (.literal v) ↔ ∃ x, v? = some x ∧ d.eq x v := by
  cases v with
  | null => cases hv
  | array items => cases hv
  | _ =>
      constructor
      · intro h
        obtain ⟨x, y, hx, hy, hxy⟩ := h
        cases hy
        exact ⟨x, hx, hxy⟩
      · intro h
        obtain ⟨x, hx, hxy⟩ := h
        exact ⟨x, _, hx, rfl, hxy⟩

/-- The clause of a comparison says what the comparison says with the field on the left. -/
theorem TestClause.holds_compare_iff {cmp : Comparison} {f : String} {v : Value} {c : Clause}
    (h : TestClause (.compare cmp) f v c) :
    c.Holds d.leaves ↔ d.Compares cmp (.stored (d.lookup f)) (.literal v) := by
  cases h with
  | term hv => exact (equal_stored_scalar hv).symm
  | missing => exact Iff.rfl
  | notTerm hv =>
      rw [Clause.holds_not]
      exact not_congr (equal_stored_scalar hv).symm
  | notMissing =>
      rw [Clause.holds_not]
      exact Iff.rfl
  | range hv =>
      constructor
      · intro h
        obtain ⟨x, hx, horder⟩ := h
        exact ⟨x, v, hx, rfl, horder⟩
      · intro h
        obtain ⟨x, y, hx, hy, horder⟩ := h
        cases hy
        exact ⟨x, hx, horder⟩

end Comparisons

/-! ## Compilation keeps the meaning -/

section Preservation

variable {d : IndexedDocument} {token : String} {l r : Expr}

/-- A comparison says of its operands, as they are written, what it says of their sides. -/
theorem holds_compare_iff {cmp : Comparison} {a b : Side}
    (htoken : BinaryOperator.ofToken? token = some (.compare cmp))
    (hsides : d.sides l r = some (a, b)) :
    (Expr.binary token l r).Holds d ↔ d.Compares cmp a b := by
  rw [Expr.Holds, htoken]
  constructor
  · intro h
    obtain ⟨a', b', hsides', hcompares⟩ := h
    rw [hsides] at hsides'
    cases hsides'
    exact hcompares
  · intro hcompares
    exact ⟨a, b, hsides, hcompares⟩

theorem sides_left {p : String} {v : Value} (hl : l.path? = some p) (hr : r.value? = some v) :
    d.sides l r = some (.stored (d.lookup p), .literal v) := by
  rw [IndexedDocument.sides, if_pos (Expr.isFieldReference_of_path? hl), hl, hr]
  rfl

theorem sides_right {p : String} {v : Value} (hl : l.isFieldReference = false)
    (hr : r.path? = some p) (hv : l.value? = some v) :
    d.sides l r = some (.literal v, .stored (d.lookup p)) := by
  rw [IndexedDocument.sides, hl, if_neg Bool.false_ne_true,
    if_pos (Expr.isFieldReference_of_path? hr), hr, hv]
  rfl

/-- A test and its clause hold of the same documents, on whichever side the field stands. -/
theorem Resolves.holds_iff {op : BinaryOperator} {f : String} {v : Value} {c : Clause}
    (hresolves : Resolves token l r op f v) (htest : TestClause op f v c) :
    c.Holds d.leaves ↔ (Expr.binary token l r).Holds d := by
  cases hresolves with
  | left htoken hl hr =>
      cases op with
      | compare cmp =>
          rw [htest.holds_compare_iff, holds_compare_iff htoken (sides_left hl hr)]
      | like =>
          cases htest
          rw [Expr.Holds, htoken, Clause.Holds, hl, hr]
          simp [IndexedDocument.leaves]
      | unlike =>
          cases htest
          rw [Expr.Holds, htoken, Clause.holds_not, Clause.Holds, hl, hr]
          simp [IndexedDocument.leaves]
      | among =>
          cases htest
          rw [Expr.Holds, htoken, Clause.Holds, hl, hr]
          simp [IndexedDocument.leaves]
      | and => cases htest
      | or => cases htest
  | right htoken href hr hl =>
      -- The clause is that of the mirrored comparison, with the sides exchanged.
      rw [htest.holds_compare_iff, holds_compare_iff htoken (sides_right href hr hl),
        compares_mirror]

/-- A clause that an expression emits without a skip field says what the expression says. -/
theorem Emits.holds_iff {e : Expr} {c : Clause} (h : Emits none e c) :
    c.Holds d.leaves ↔ e.Holds d := by
  induction h with
  | fulltext text => rw [Clause.Holds, Expr.Holds]; rfl
  | filter _ ih => rw [Expr.Holds, ih]
  | term _ ih => rw [Expr.Holds, ih]
  | not htoken _ ih =>
      rw [Expr.Holds, htoken, ← ih]
      simp
  | and htoken _ _ ihl ihr =>
      rw [Expr.Holds, htoken, ← ihl, ← ihr]
      simp
  | or htoken _ _ ihl ihr =>
      rw [Expr.Holds, htoken, ← ihl, ← ihr]
      simp
  | test hresolves htested =>
      cases htested with
      | kept _ htest => exact hresolves.holds_iff htest
      | dropped _ hskip =>
          -- Nothing is dropped without a skip field.
          cases hskip

/-- **Compilation keeps the meaning.** Without a skip field, a compiled filter holds of exactly the
documents of which its expression holds, whatever the engine takes equality, the orders, membership,
wildcards and phrases to be. -/
theorem compile_holds_iff (d : IndexedDocument) (e : Expr) (r : Compilation)
    (h : compile none e = .ok r) : r.filter.Holds d.leaves ↔ e.Holds d :=
  (compile_eq_ok_iff.1 h).1.holds_iff

/-- A document that stores one status and knows no order but that of integers. -/
def statusDocument : IndexedDocument where
  lookup path := if path = "http.status" then some (.number (.int 404)) else none
  eq a b := a = b
  eq_symm _ _ h := h.symm
  lt a b := ∃ i j : Int, a = .number (.int i) ∧ b = .number (.int j) ∧ i < j
  le a b := ∃ i j : Int, a = .number (.int i) ∧ b = .number (.int j) ∧ i ≤ j
  among _ _ := False
  glob _ _ := False
  phrase _ _ := False

/-- Fields on the right, a path of two parts, null and both negations: `400 <= http.status` and not
`null != user`. -/
theorem compile_holds_iff_status :
    let e := Expr.both
      (.binary "<=" (.number (.int 400)) (.member (.field "http") (.string "status")))
      (.negate (.binary "!=" .null (.field "user")))
    let c := Clause.bool .must
      [.range "http.status" .gte (.number (.int 400)), .bool .mustNot [.not (.missing "user")]]
    compile none e = .ok ⟨c, ["http", "user"], []⟩ ∧
      (c.Holds statusDocument.leaves ↔ e.Holds statusDocument) :=
  ⟨rfl, compile_holds_iff statusDocument _ ⟨_, ["http", "user"], []⟩ rfl⟩

end Preservation

end FilterQuery
