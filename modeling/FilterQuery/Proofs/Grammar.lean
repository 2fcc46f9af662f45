import FilterQuery.Proofs.WalkRules

/-!
# The grammar of filter expressions

Which expressions compile is decided by their form alone. `Expr.IsValue` and `Expr.IsFilter` are the
two grammars: of the operands that denote values, and of the filters. Neither speaks of values or of
clauses; where an operand has to be of a certain kind, its *core* has to be, which is what remains
without the wrappers around it. A test on the skip field may have an operand of any kind.

## Main results

* `isValue_iff` — the grammar of values is that of the expressions that denote one.
* `exists_testClause_iff` — an operand is of the right kind exactly if the test has a clause.
* `compiles_iff_isFilter` — the expressions that compile are those of the grammar of filters.
-/

namespace FilterQuery

/-! ## The grammars -/

namespace Expr

/-- The expression without the wrappers around it. -/
def core : Expr → Expr
  | .filter ast => ast.core
  | .term expression => expression.core
  | e => e

/-- Whether the expression denotes a text by its form: a literal that is written as one, or a field
reference, which denotes its path. -/
def isText : Expr → Bool
  | .string _ => true
  | .moment _ => true
  | .duration _ => true
  | .field _ => true
  | .member _ _ => true
  | _ => false

/-- Whether the expression is an array by its form. -/
def isArray : Expr → Bool
  | .array _ => true
  | _ => false

/-- The expressions that denote values. -/
inductive IsValue : Expr → Prop
  | null : IsValue .null
  | boolean (value : Bool) : IsValue (.boolean value)
  | number (value : Number) : IsValue (.number value)
  | string (value : String) : IsValue (.string value)
  | moment (value : Moment) : IsValue (.moment value)
  | duration (value : Duration) : IsValue (.duration value)
  | field (name : String) : IsValue (.field name)
  | member {object property} : IsValue object → IsValue property →
      IsValue (.member object property)
  | array {elements} : (∀ e ∈ elements, IsValue e) → IsValue (.array elements)
  | filter {e} : IsValue e → IsValue (.filter e)
  | term {e} : IsValue e → IsValue (.term e)

end Expr

/-- Whether a field can be compared with an operand of the given core: never with an array, and in
order not with null. -/
def Comparison.admits : Comparison → Expr → Bool
  | _, .array _ => false
  | .within _, .null => false
  | _, _ => true

namespace Expr

/-- The filter expressions under a skip field. In a comparison the field is the left operand if that is
a field reference, and the right one otherwise. -/
inductive IsFilter (skip? : Option String) : Expr → Prop
  | fulltext (text : String) : IsFilter skip? (.fulltext text)
  | filter {e} : IsFilter skip? e → IsFilter skip? (.filter e)
  | term {e} : IsFilter skip? e → IsFilter skip? (.term e)
  | not {e} : IsFilter skip? e → IsFilter skip? (.unary "NOT" e)
  | and {l r} : IsFilter skip? l → IsFilter skip? r → IsFilter skip? (.binary "AND" l r)
  | or {l r} : IsFilter skip? l → IsFilter skip? r → IsFilter skip? (.binary "OR" l r)
  | compareLeft {l r} (cmp : Comparison) : l.isFieldReference = true → IsValue l → IsValue r →
      (l.path? = skip? ∨ cmp.admits r.core = true) → IsFilter skip? (.binary cmp.symbol l r)
  | compareRight {l r} (cmp : Comparison) : l.isFieldReference = false →
      r.isFieldReference = true → IsValue r → IsValue l →
      (r.path? = skip? ∨ cmp.admits l.core = true) → IsFilter skip? (.binary cmp.symbol l r)
  | like {l r} : l.isFieldReference = true → IsValue l → IsValue r → r.core.isText = true →
      IsFilter skip? (.binary "=~" l r)
  | unlike {l r} : l.isFieldReference = true → IsValue l → IsValue r → r.core.isText = true →
      IsFilter skip? (.binary "!~" l r)
  | among {l r} : l.isFieldReference = true → IsValue l → IsValue r →
      (l.path? = skip? ∨ r.core.isArray = true) → IsFilter skip? (.binary "in" l r)

/-! ## Operands -/

theorem values?_isSome_iff {elements : List Expr}
    (helements : ∀ e ∈ elements, e.IsValue ↔ ∃ v, e.value? = some v) :
    (∀ e ∈ elements, e.IsValue) ↔ ∃ vs, values? elements = some vs := by
  induction elements with
  | nil => simp [values?]
  | cons e rest ih =>
      have hhead := helements e List.mem_cons_self
      have htail := ih fun e' he' => helements e' (List.mem_cons_of_mem _ he')
      rw [List.forall_mem_cons, hhead, htail]
      simp only [values?, Option.bind_eq_some_iff, Option.map_eq_some_iff]
      constructor
      · intro h
        obtain ⟨⟨v, hv⟩, vs, hvs⟩ := h
        exact ⟨v :: vs, v, hv, vs, hvs, rfl⟩
      · intro h
        obtain ⟨_, v, hv, vs, hvs, _⟩ := h
        exact ⟨⟨v, hv⟩, vs, hvs⟩

/-- The grammar of values is that of the expressions that denote one. -/
theorem isValue_iff (e : Expr) : e.IsValue ↔ ∃ v, e.value? = some v := by
  induction e with
  | null => exact ⟨fun _ => ⟨_, rfl⟩, fun _ => .null⟩
  | boolean b => exact ⟨fun _ => ⟨_, rfl⟩, fun _ => .boolean b⟩
  | number n => exact ⟨fun _ => ⟨_, rfl⟩, fun _ => .number n⟩
  | string s => exact ⟨fun _ => ⟨_, rfl⟩, fun _ => .string s⟩
  | moment m => exact ⟨fun _ => ⟨_, rfl⟩, fun _ => .moment m⟩
  | duration d => exact ⟨fun _ => ⟨_, rfl⟩, fun _ => .duration d⟩
  | field name => exact ⟨fun _ => ⟨_, rfl⟩, fun _ => .field name⟩
  | filter ast ih =>
      rw [value?, ← ih]
      constructor
      · intro h
        cases h with
        | filter hast => exact hast
      · exact .filter
  | term ast ih =>
      rw [value?, ← ih]
      constructor
      · intro h
        cases h with
        | term hast => exact hast
      · exact .term
  | array elements ih =>
      simp only [value?, Option.map_eq_some_iff]
      constructor
      · intro h
        cases h with
        | array helements =>
            obtain ⟨vs, hvs⟩ := (values?_isSome_iff ih).1 helements
            exact ⟨_, vs, hvs, rfl⟩
      · intro h
        obtain ⟨_, vs, hvs, _⟩ := h
        exact .array ((values?_isSome_iff ih).2 ⟨vs, hvs⟩)
  | member object property iho ihp =>
      simp only [value?, Option.bind_eq_some_iff, Option.map_eq_some_iff]
      constructor
      · intro h
        cases h with
        | member hobject hproperty =>
            obtain ⟨a, ha⟩ := iho.1 hobject
            obtain ⟨b, hb⟩ := ihp.1 hproperty
            exact ⟨_, a, ha, b, hb, rfl⟩
      · intro h
        obtain ⟨_, a, ha, b, hb, _⟩ := h
        exact .member (iho.2 ⟨a, ha⟩) (ihp.2 ⟨b, hb⟩)
  | unary | binary | fulltext =>
      constructor
      · intro h
        cases h
      · intro h
        obtain ⟨_, hv⟩ := h
        cases hv

/-- The kinds of values, each with the cores that denote it. -/
inductive CoreDenotes : Expr → Value → Prop
  | null : CoreDenotes .null .null
  | boolean (b : Bool) : CoreDenotes (.boolean b) (.bool b)
  | number (n : Number) : CoreDenotes (.number n) (.number n)
  | text {e} (s : String) : e.isText = true → CoreDenotes e (.string s)
  | array (elements : List Expr) (items : List Value) :
      CoreDenotes (.array elements) (.array items)

/-- The core of an operand shows the kind of its value. -/
theorem coreDenotes_of_value? {e : Expr} : ∀ {v : Value}, e.value? = some v →
    CoreDenotes e.core v := by
  induction e with
  | null =>
      intro v h
      cases h
      exact .null
  | boolean b =>
      intro v h
      cases h
      exact .boolean b
  | number n =>
      intro v h
      cases h
      exact .number n
  | string | moment | duration | field =>
      intro v h
      cases h
      exact .text _ rfl
  | filter ast ih | term ast ih => exact ih
  | array elements _ =>
      intro v h
      obtain ⟨items, _, rfl⟩ := Option.map_eq_some_iff.1 h
      exact .array elements items
  | member object property _ _ =>
      intro v h
      obtain ⟨a, _, h⟩ := Option.bind_eq_some_iff.1 h
      obtain ⟨b, _, rfl⟩ := Option.map_eq_some_iff.1 h
      exact .text _ rfl
  | unary | binary | fulltext => exact nofun

end Expr

/-! ## Tests -/

section Tests

variable {skip? : Option String} {f : String} {e : Expr} {v : Value}

/-- A field can be compared with every scalar. -/
theorem exists_compareClause_of_isScalar (cmp : Comparison) (hv : v.isScalar = true) :
    ∃ c, TestClause (.compare cmp) f v c := by
  cases cmp with
  | equal => exact ⟨_, .term hv⟩
  | notEqual => exact ⟨_, .notTerm hv⟩
  | within bound => exact ⟨_, .range hv⟩

theorem Comparison.admits_of_isText (cmp : Comparison) (he : e.isText = true) :
    cmp.admits e = true := by
  cases e with
  | null => cases he
  | array elements => cases he
  | _ => rfl

/-- A comparison has a clause exactly if its operand is of a kind that it admits. -/
theorem exists_compareClause_iff {cmp : Comparison} (he : e.value? = some v) :
    (∃ c, TestClause (.compare cmp) f v c) ↔ cmp.admits e.core = true := by
  have hcore := Expr.coreDenotes_of_value? he
  generalize e.core = core at hcore
  cases hcore with
  | null =>
      cases cmp with
      | equal => exact ⟨fun _ => rfl, fun _ => ⟨_, .missing⟩⟩
      | notEqual => exact ⟨fun _ => rfl, fun _ => ⟨_, .notMissing⟩⟩
      | within bound =>
          constructor
          · intro h
            obtain ⟨_, htest⟩ := h
            cases htest
            contradiction
          · nofun
  | boolean b => exact ⟨fun _ => rfl, fun _ => exists_compareClause_of_isScalar cmp rfl⟩
  | number n => exact ⟨fun _ => rfl, fun _ => exists_compareClause_of_isScalar cmp rfl⟩
  | text s htext =>
      exact ⟨fun _ => cmp.admits_of_isText htext, fun _ => exists_compareClause_of_isScalar cmp rfl⟩
  | array elements items =>
      constructor
      · intro h
        obtain ⟨_, htest⟩ := h
        cases htest <;> contradiction
      · nofun

/-- A wildcard match has a clause exactly if its pattern is a text. -/
theorem exists_likeClause_iff (he : e.value? = some v) :
    (∃ c, TestClause .like f v c) ↔ e.core.isText = true := by
  have hcore := Expr.coreDenotes_of_value? he
  generalize e.core = core at hcore
  cases hcore with
  | text s htext => exact ⟨fun _ => htext, fun _ => ⟨_, .wildcard⟩⟩
  | _ => exact ⟨nofun, nofun⟩

/-- The negated match has a clause exactly if the match has one. -/
theorem exists_unlikeClause_iff :
    (∃ c, TestClause .unlike f v c) ↔ ∃ c, TestClause .like f v c := by
  constructor
  · intro h
    obtain ⟨_, htest⟩ := h
    cases htest
    exact ⟨_, .wildcard⟩
  · intro h
    obtain ⟨_, htest⟩ := h
    cases htest
    exact ⟨_, .notWildcard⟩

/-- A membership has a clause exactly if its right operand is an array. -/
theorem exists_amongClause_iff (he : e.value? = some v) :
    (∃ c, TestClause .among f v c) ↔ e.core.isArray = true := by
  have hcore := Expr.coreDenotes_of_value? he
  generalize e.core = core at hcore
  cases hcore with
  | text s htext =>
      constructor
      · nofun
      · intro harray
        cases core <;> cases htext <;> cases harray
  | array elements items => exact ⟨fun _ => rfl, fun _ => ⟨_, .terms⟩⟩
  | _ => exact ⟨nofun, nofun⟩

/-- Whether the operator can test a field against an operand of the given core. -/
def BinaryOperator.admits : BinaryOperator → Expr → Bool
  | .compare cmp, core => cmp.admits core
  | .like, core => core.isText
  | .unlike, core => core.isText
  | .among, core => core.isArray
  | _, _ => false

/-- A test has a clause exactly if its operand is of a kind that the operator admits. -/
theorem exists_testClause_iff (op : BinaryOperator) (he : e.value? = some v) :
    (∃ c, TestClause op f v c) ↔ op.admits e.core = true := by
  cases op with
  | compare cmp => exact exists_compareClause_iff he
  | like => exact exists_likeClause_iff he
  | unlike => exact exists_unlikeClause_iff.trans (exists_likeClause_iff he)
  | among => exact exists_amongClause_iff he
  | and => exact ⟨nofun, nofun⟩
  | or => exact ⟨nofun, nofun⟩

/-- A test compiles if it has a clause or gives way to the skip field. -/
theorem exists_tested_iff {op : BinaryOperator} :
    (∃ c, Tested skip? op f v c) ↔
      (op.skippable = true ∧ some f = skip?) ∨ ∃ c, TestClause op f v c := by
  constructor
  · intro h
    obtain ⟨c, htested⟩ := h
    cases htested with
    | kept _ htest => exact .inr ⟨c, htest⟩
    | dropped hop hskip => exact .inl ⟨hop, hskip.symm⟩
  · intro h
    rcases h with ⟨hop, hskip⟩ | ⟨c, htest⟩
    · exact ⟨_, .dropped hop hskip.symm⟩
    · by_cases hdrop : op.skippable = true ∧ skip? = some f
      · exact ⟨_, .dropped hdrop.1 hdrop.2⟩
      · exact ⟨c, .kept (fun hop hskip => hdrop ⟨hop, hskip⟩) htest⟩

end Tests

/-! ## Expressions that compile -/

section Compiles

variable {skip? : Option String} {l r e : Expr}

theorem BinaryOperator.eq_symbol_of_ofToken? {token : String} {op : BinaryOperator}
    (h : BinaryOperator.ofToken? token = some op) : token = op.symbol := by
  unfold BinaryOperator.ofToken? at h
  split at h <;> cases h <;> rfl

theorem UnaryOperator.eq_not_of_ofToken? {token : String} {op : UnaryOperator}
    (h : UnaryOperator.ofToken? token = some op) : token = "NOT" := by
  unfold UnaryOperator.ofToken? at h
  split at h
  · assumption
  · cases h

/-- The condition on the operands of a test that has its field on the left. -/
theorem exists_tested_operand_iff {field operand : Expr} {f : String} {v : Value}
    (op : BinaryOperator) (hfield : field.path? = some f) (hoperand : operand.value? = some v) :
    (∃ c, Tested skip? op f v c) ↔
      (op.skippable = true ∧ field.path? = skip?) ∨ op.admits operand.core = true := by
  rw [exists_tested_iff, exists_testClause_iff op hoperand, hfield]

/-- The path of a field reference that denotes a value. -/
theorem exists_path?_of_isValue (href : e.isFieldReference = true) (he : e.IsValue) :
    ∃ f, e.path? = some f := by
  obtain ⟨v, hv⟩ := e.isValue_iff.1 he
  rw [Expr.value?_eq_path? href] at hv
  obtain ⟨f, hf, _⟩ := Option.map_eq_some_iff.1 hv
  exact ⟨f, hf⟩

/-- A test with a field reference on the left emits a clause if its operands are of the right form. -/
theorem exists_emits_left (op : BinaryOperator) (href : l.isFieldReference = true)
    (hl : l.IsValue) (hr : r.IsValue)
    (hoperand : (op.skippable = true ∧ l.path? = skip?) ∨ op.admits r.core = true) :
    ∃ c, Emits skip? (.binary op.symbol l r) c := by
  obtain ⟨f, hf⟩ := exists_path?_of_isValue href hl
  obtain ⟨v, hv⟩ := r.isValue_iff.1 hr
  obtain ⟨c, htested⟩ := (exists_tested_operand_iff op hf hv).2 hoperand
  exact ⟨c, .test (.left op.ofToken?_symbol hf hv) htested⟩

theorem Comparison.admits_mirror (cmp : Comparison) (core : Expr) :
    cmp.mirror.admits core = cmp.admits core := by
  cases cmp with
  | within bound => cases core <;> rfl
  | _ => rfl

/-- A comparison with its field on the right emits a clause under the same condition. -/
theorem exists_emits_right (cmp : Comparison) (hlref : l.isFieldReference = false)
    (hrref : r.isFieldReference = true) (hr : r.IsValue) (hl : l.IsValue)
    (hoperand : r.path? = skip? ∨ cmp.admits l.core = true) :
    ∃ c, Emits skip? (.binary cmp.symbol l r) c := by
  obtain ⟨f, hf⟩ := exists_path?_of_isValue hrref hr
  obtain ⟨v, hv⟩ := l.isValue_iff.1 hl
  have hoperand' : (BinaryOperator.skippable (.compare cmp.mirror) = true ∧ r.path? = skip?) ∨
      BinaryOperator.admits (.compare cmp.mirror) l.core = true := by
    rw [BinaryOperator.admits, cmp.admits_mirror]
    exact hoperand.imp_left fun hskip => ⟨rfl, hskip⟩
  obtain ⟨c, htested⟩ := (exists_tested_operand_iff _ hf hv).2 hoperand'
  exact ⟨c, .test (.right (BinaryOperator.ofToken?_symbol (.compare cmp)) hlref hf hv) htested⟩

/-- An expression of the grammar of filters emits a clause. -/
theorem Expr.IsFilter.exists_emits (h : e.IsFilter skip?) : ∃ c, Emits skip? e c := by
  induction h with
  | fulltext text => exact ⟨_, .fulltext text⟩
  | filter _ ih =>
      obtain ⟨c, hc⟩ := ih
      exact ⟨c, .filter hc⟩
  | term _ ih =>
      obtain ⟨c, hc⟩ := ih
      exact ⟨c, .term hc⟩
  | not _ ih =>
      obtain ⟨c, hc⟩ := ih
      exact ⟨_, .not rfl hc⟩
  | and _ _ ihl ihr =>
      obtain ⟨a, ha⟩ := ihl
      obtain ⟨b, hb⟩ := ihr
      exact ⟨_, .and rfl ha hb⟩
  | or _ _ ihl ihr =>
      obtain ⟨a, ha⟩ := ihl
      obtain ⟨b, hb⟩ := ihr
      exact ⟨_, .or rfl ha hb⟩
  | compareLeft cmp href hl hr hoperand =>
      exact exists_emits_left (.compare cmp) href hl hr
        (hoperand.imp_left fun hskip => ⟨rfl, hskip⟩)
  | compareRight cmp hlref hrref hr hl hoperand =>
      exact exists_emits_right cmp hlref hrref hr hl hoperand
  | like href hl hr htext => exact exists_emits_left .like href hl hr (.inr htext)
  | unlike href hl hr htext => exact exists_emits_left .unlike href hl hr (.inr htext)
  | among href hl hr hoperand =>
      exact exists_emits_left .among href hl hr (hoperand.imp_left fun hskip => ⟨rfl, hskip⟩)

/-- An expression that emits a clause is of the grammar of filters. -/
theorem Emits.isFilter {c : Clause} (h : Emits skip? e c) : e.IsFilter skip? := by
  induction h with
  | fulltext text => exact .fulltext text
  | filter _ ih => exact .filter ih
  | term _ ih => exact .term ih
  | not htoken _ ih =>
      rw [UnaryOperator.eq_not_of_ofToken? htoken]
      exact .not ih
  | and htoken _ _ ihl ihr =>
      rw [BinaryOperator.eq_symbol_of_ofToken? htoken]
      exact .and ihl ihr
  | or htoken _ _ ihl ihr =>
      rw [BinaryOperator.eq_symbol_of_ofToken? htoken]
      exact .or ihl ihr
  | @test _ l r op _ _ _ hresolves htested =>
      cases hresolves with
      | left htoken hf hv =>
          rw [BinaryOperator.eq_symbol_of_ofToken? htoken]
          have hoperand := (exists_tested_operand_iff op hf hv).1 ⟨_, htested⟩
          obtain ⟨href, hlv⟩ := Expr.path?_eq_some_iff.1 hf
          have hl := l.isValue_iff.2 ⟨_, hlv⟩
          have hr := r.isValue_iff.2 ⟨_, hv⟩
          cases op with
          | and => cases htested.isTest
          | or => cases htested.isTest
          | compare cmp => exact .compareLeft cmp href hl hr (hoperand.imp_left And.right)
          | among => exact .among href hl hr (hoperand.imp_left And.right)
          | like => exact .like href hl hr (hoperand.resolve_left nofun)
          | unlike => exact .unlike href hl hr (hoperand.resolve_left nofun)
      | @right cmp _ _ htoken hlref hf hv =>
          rw [BinaryOperator.eq_symbol_of_ofToken? htoken]
          have hoperand := (exists_tested_operand_iff _ hf hv).1 ⟨_, htested⟩
          rw [BinaryOperator.admits, cmp.admits_mirror] at hoperand
          obtain ⟨hrref, hrv⟩ := Expr.path?_eq_some_iff.1 hf
          exact .compareRight cmp hlref hrref (r.isValue_iff.2 ⟨_, hrv⟩) (l.isValue_iff.2 ⟨_, hv⟩)
            (hoperand.imp_left And.right)

/-- **The compiler accepts exactly its grammar**, with and without a skip field. -/
theorem compiles_iff_isFilter (skip? : Option String) (e : Expr) :
    (∃ r, compile skip? e = .ok r) ↔ e.IsFilter skip? := by
  constructor
  · intro hcompiles
    obtain ⟨r, h⟩ := hcompiles
    exact (compile_eq_ok_iff.1 h).1.isFilter
  · intro h
    obtain ⟨c, hc⟩ := h.exists_emits
    exact ⟨⟨c, e.fieldNames, c.dropped skip?⟩, compile_eq_ok_iff.2 ⟨hc, rfl, rfl⟩⟩

/-- Null cannot be ordered, unless the field is the skip field. -/
example : (Expr.binary "<" (.field "time") .null).IsFilter (some "time") :=
  .compareLeft (.within .lt) rfl (.field "time") .null (.inl rfl)

end Compiles

end FilterQuery
