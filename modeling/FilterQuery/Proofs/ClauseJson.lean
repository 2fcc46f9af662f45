import FilterQuery.Proofs.WalkRules

/-!
# Reading clauses back

The form of a clause that the engine reads nests its parts in objects with one member each, and the
names of fields stand among the names of the form: a field may be called `field`, `lt` or `must`. No
two clauses share a form all the same, since it is the place of a name that tells which of the two it
is. `Clause.ofJson?` reads a form by these places and gives every clause back (`ofJson?_toJson`).

Documents are compared with their numbers as numbers, where the two zeros are one. Mapping the numbers
of a clause maps those of its form (`toJson_mapNumbers`), so the comparison carries over to clauses.
-/

namespace FilterQuery

/-! ## Values -/

namespace Value

/-- Induction over values, with one hypothesis for all items of an array. -/
@[elab_as_elim, induction_eliminator]
theorem induct {motive : Value → Prop}
    (null : motive .null)
    (bool : ∀ value, motive (.bool value))
    (number : ∀ value, motive (.number value))
    (string : ∀ value, motive (.string value))
    (array : ∀ items, (∀ v ∈ items, motive v) → motive (.array items))
    (v : Value) : motive v :=
  @Value.rec motive (fun vs => ∀ v ∈ vs, motive v)
    null bool number string array
    (fun _ h => absurd h List.not_mem_nil)
    (fun _ _ head tail => List.forall_mem_cons.2 ⟨head, tail⟩) v

mutual

/-- The value that a document shows. An object shows none. -/
def ofJson? : Json → Option Value
  | .null => some .null
  | .bool b => some (.bool b)
  | .number n => some (.number n)
  | .string s => some (.string s)
  | .array items => (listOfJson? items).map .array
  | .object _ => none

/-- The values that the documents of a list show. -/
def listOfJson? : List Json → Option (List Value)
  | [] => some []
  | item :: rest => (ofJson? item).bind fun v => (listOfJson? rest).map (v :: ·)

end

theorem listOfJson?_listToJson {items : List Value} (hitems : ∀ v ∈ items, ofJson? v.toJson = some v) :
    listOfJson? (listToJson items) = some items := by
  induction items with
  | nil => rfl
  | cons v rest ih =>
      have hhead := hitems v List.mem_cons_self
      have htail := ih fun v' hv' => hitems v' (List.mem_cons_of_mem _ hv')
      rw [listToJson, listOfJson?, hhead, htail]
      rfl

theorem ofJson?_toJson (v : Value) : ofJson? v.toJson = some v := by
  induction v with
  | null | bool | number | string => rfl
  | array items ih =>
      rw [toJson, ofJson?, listOfJson?_listToJson ih]
      rfl

end Value

/-! ## Clauses -/

/-- The combination with the given name. -/
def Occur.ofKey? (key : String) : Option Occur :=
  match key with
  | "must" => some .must
  | "should" => some .should
  | "must_not" => some .mustNot
  | _ => none

theorem Occur.ofKey?_key (occur : Occur) : ofKey? occur.key = some occur := by
  cases occur <;> rfl

/-- The bound with the given name. -/
def Bound.ofKey? (key : String) : Option Bound :=
  match key with
  | "lt" => some .lt
  | "gt" => some .gt
  | "lte" => some .lte
  | "gte" => some .gte
  | _ => none

theorem Bound.ofKey?_key (bound : Bound) : ofKey? bound.key = some bound := by
  cases bound <;> rfl

namespace Clause

mutual

/-- The clause that a document shows. The outermost name decides between the kinds, save that two of
them are queries, which the next name tells apart. -/
def ofJson? : Json → Option Clause
  | .object [("match_all", .object [])] => some .matchAll
  | .object [("bool", .object [(key, .array items)])] =>
    (Occur.ofKey? key).bind fun occur => (listOfJson? items).map (.bool occur)
  | .object [("not", clause)] => (ofJson? clause).map .not
  | .object [("term", .object [(field, value)])] => (Value.ofJson? value).map (.term field)
  | .object [("terms", .object [(field, .array items)])] =>
    (Value.listOfJson? items).map (.terms field)
  | .object [("range", .object [(field, .object [(key, value)])])] =>
    (Bound.ofKey? key).bind fun bound => (Value.ofJson? value).map (.range field bound)
  | .object [("missing", .object [("field", .string field)])] => some (.missing field)
  | .object [("query", .object [("wildcard", .object [(field, .string pattern)])])] =>
    some (.wildcard field pattern)
  | .object [("query", .object [("match_phrase", .object [(field, .string text)])])] =>
    some (.matchPhrase field text)
  | _ => none

/-- The clauses that the documents of a list show. -/
def listOfJson? : List Json → Option (List Clause)
  | [] => some []
  | item :: rest => (ofJson? item).bind fun c => (listOfJson? rest).map (c :: ·)

end

theorem listOfJson?_listToJson {clauses : List Clause}
    (hclauses : ∀ c ∈ clauses, ofJson? c.toJson = some c) :
    listOfJson? (listToJson clauses) = some clauses := by
  induction clauses with
  | nil => rfl
  | cons c rest ih =>
      have hhead := hclauses c List.mem_cons_self
      have htail := ih fun c' hc' => hclauses c' (List.mem_cons_of_mem _ hc')
      rw [listToJson, listOfJson?, hhead, htail]
      rfl

/-- A clause is read back from its form. -/
theorem ofJson?_toJson (c : Clause) : ofJson? c.toJson = some c := by
  induction c with
  | matchAll | missing | wildcard | matchPhrase => rfl
  | bool occur clauses ih =>
      show (Occur.ofKey? occur.key).bind _ = _
      rw [Occur.ofKey?_key, listOfJson?_listToJson ih]
      rfl
  | not clause ih =>
      show (ofJson? clause.toJson).map _ = _
      rw [ih]
      rfl
  | term field value =>
      show (Value.ofJson? value.toJson).map _ = _
      rw [value.ofJson?_toJson]
      rfl
  | terms field values =>
      show (Value.listOfJson? (Value.listToJson values)).map _ = _
      rw [Value.listOfJson?_listToJson fun v _ => v.ofJson?_toJson]
      rfl
  | range field bound value =>
      show (Bound.ofKey? bound.key).bind _ = _
      rw [Bound.ofKey?_key, value.ofJson?_toJson]
      rfl

/-- Clauses with one form are one clause. -/
theorem eq_of_toJson_eq {c₁ c₂ : Clause} (h : c₁.toJson = c₂.toJson) : c₁ = c₂ := by
  have hread := c₁.ofJson?_toJson
  rw [h, c₂.ofJson?_toJson] at hread
  exact (Option.some.inj hread).symm

end Clause

/-! ## Numbers -/

/-- The number by which a number is compared: an integer and a floating point number are never the
same, and the negative zero is the positive one. -/
def Number.compared : Number → Number
  | .int i => .int i
  | .float x => .float (if x.magnitude = 0 then Binary64.zero false else x)

namespace Json

mutual

/-- The document with its numbers replaced. -/
def mapNumbers (f : Number → Number) : Json → Json
  | .number n => .number (f n)
  | .array items => .array (mapItems f items)
  | .object members => .object (mapMembers f members)
  | value => value

def mapItems (f : Number → Number) : List Json → List Json
  | [] => []
  | item :: rest => item.mapNumbers f :: mapItems f rest

def mapMembers (f : Number → Number) : List (String × Json) → List (String × Json)
  | [] => []
  | (key, value) :: rest => (key, value.mapNumbers f) :: mapMembers f rest

end

/-- Whether two documents are the same, with numbers compared as numbers. -/
def Same (j₁ j₂ : Json) : Prop :=
  j₁.mapNumbers Number.compared = j₂.mapNumbers Number.compared

end Json

namespace Value

mutual

/-- The value with its numbers replaced. -/
def mapNumbers (f : Number → Number) : Value → Value
  | .number n => .number (f n)
  | .array items => .array (mapItems f items)
  | value => value

def mapItems (f : Number → Number) : List Value → List Value
  | [] => []
  | item :: rest => item.mapNumbers f :: mapItems f rest

end

variable (f : Number → Number)

theorem listToJson_mapItems {items : List Value}
    (hitems : ∀ v ∈ items, (v.mapNumbers f).toJson = v.toJson.mapNumbers f) :
    listToJson (mapItems f items) = Json.mapItems f (listToJson items) := by
  induction items with
  | nil => rfl
  | cons v rest ih =>
      have hhead := hitems v List.mem_cons_self
      have htail := ih fun v' hv' => hitems v' (List.mem_cons_of_mem _ hv')
      rw [mapItems, listToJson, listToJson, Json.mapItems, hhead, htail]

theorem toJson_mapNumbers (v : Value) : (v.mapNumbers f).toJson = v.toJson.mapNumbers f := by
  induction v with
  | null | bool | number | string => rfl
  | array items ih => rw [mapNumbers, toJson, toJson, Json.mapNumbers, listToJson_mapItems f ih]

end Value

namespace Clause

mutual

/-- The clause with the numbers of its values replaced. -/
def mapNumbers (f : Number → Number) : Clause → Clause
  | .bool occur clauses => .bool occur (mapClauses f clauses)
  | .not clause => .not (clause.mapNumbers f)
  | .term field value => .term field (value.mapNumbers f)
  | .terms field values => .terms field (Value.mapItems f values)
  | .range field bound value => .range field bound (value.mapNumbers f)
  | c => c

def mapClauses (f : Number → Number) : List Clause → List Clause
  | [] => []
  | clause :: rest => clause.mapNumbers f :: mapClauses f rest

end

/-- Whether two clauses are the same, with numbers compared as numbers. -/
def Same (c₁ c₂ : Clause) : Prop :=
  c₁.mapNumbers Number.compared = c₂.mapNumbers Number.compared

variable (f : Number → Number)

theorem keyed_mapNumbers (key : String) (value : Json) :
    (keyed key value).mapNumbers f = keyed key (value.mapNumbers f) := rfl

theorem listToJson_mapClauses {clauses : List Clause}
    (hclauses : ∀ c ∈ clauses, (c.mapNumbers f).toJson = c.toJson.mapNumbers f) :
    listToJson (mapClauses f clauses) = Json.mapItems f (listToJson clauses) := by
  induction clauses with
  | nil => rfl
  | cons c rest ih =>
      have hhead := hclauses c List.mem_cons_self
      have htail := ih fun c' hc' => hclauses c' (List.mem_cons_of_mem _ hc')
      rw [mapClauses, listToJson, listToJson, Json.mapItems, hhead, htail]

/-- The form of a clause has the numbers of the clause. -/
theorem toJson_mapNumbers (c : Clause) : (c.mapNumbers f).toJson = c.toJson.mapNumbers f := by
  induction c with
  | matchAll | missing | wildcard | matchPhrase => rfl
  | bool occur clauses ih =>
      rw [mapNumbers, toJson, toJson, keyed_mapNumbers, keyed_mapNumbers, Json.mapNumbers,
        listToJson_mapClauses f ih]
  | not clause ih => rw [mapNumbers, toJson, toJson, keyed_mapNumbers, ih]
  | term field value =>
      rw [mapNumbers, toJson, toJson, keyed_mapNumbers, keyed_mapNumbers, value.toJson_mapNumbers]
  | terms field values =>
      rw [mapNumbers, toJson, toJson, keyed_mapNumbers, keyed_mapNumbers, Json.mapNumbers,
        Value.listToJson_mapItems f fun v _ => v.toJson_mapNumbers f]
  | range field bound value =>
      rw [mapNumbers, toJson, toJson, keyed_mapNumbers, keyed_mapNumbers, keyed_mapNumbers,
        value.toJson_mapNumbers]

/-- **The form determines the clause.** Two clauses with the same form are the same, whether numbers
are told apart by their bits or compared as numbers. -/
theorem toJson_determines (c₁ c₂ : Clause) :
    (c₁.toJson = c₂.toJson → c₁ = c₂) ∧ (c₁.toJson.Same c₂.toJson → c₁.Same c₂) := by
  refine ⟨eq_of_toJson_eq, ?_⟩
  intro hsame
  have hform : (c₁.mapNumbers Number.compared).toJson = (c₂.mapNumbers Number.compared).toJson := by
    rw [toJson_mapNumbers, toJson_mapNumbers]
    exact hsame
  exact eq_of_toJson_eq hform

/-- Fields that are called like parts of the form, and zeros of both signs. -/
theorem toJson_determines_zeros :
    let zero := fun negative => Value.number (.float (Binary64.zero negative))
    let clause := fun negative => Clause.bool .must
      [.range "lt" .lt (zero negative), .terms "terms" [.array [zero negative, .string "bool"]]]
    (clause true).toJson.Same (clause false).toJson ∧ (clause true).Same (clause false) ∧
      clause true ≠ clause false := by
  intro zero clause
  have hsame : (clause true).toJson.Same (clause false).toJson := rfl
  exact ⟨hsame, (toJson_determines (clause true) (clause false)).2 hsame, nofun⟩

end Clause

end FilterQuery
