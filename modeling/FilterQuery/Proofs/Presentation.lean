import FilterQuery.Proofs.ExprText
import Mathlib.Data.List.Nodup

/-!
# The presentations of an expression

A document may present an expression in many ways. Each node is either an object with the tag and the
fields of its kind, in any order and among any other members, or an array of the tag and the fields in
their order; and which of the two it is, and what the other members are, is decided at each node anew. All
presentations are read as the expression.

The two forms of a node are stated once for all kinds (`Expr.Form`), over the names of the fields of the
kind. What is left for each kind is how its fields are read (`Expr.ReadsFields`).

## Main results

* `Expr.ofJson_of_form` — a node of either form is read as an expression, if its fields are.
* `Expr.ofJson_presentation` — every presentation of an expression is read as the expression.
-/

namespace FilterQuery

namespace Expr

/-- The names of the fields of a kind, in their order. -/
def Kind.fieldNames : Kind → List String
  | .null => []
  | .boolean | .number | .string | .moment | .duration => ["value"]
  | .filter => ["ast"]
  | .array => ["elements"]
  | .unary => ["operator", "argument"]
  | .field => ["name"]
  | .member => ["object", "property"]
  | .binary => ["operator", "left", "right"]
  | .term => ["expression"]
  | .fulltext => ["text"]

/-- The forms of a node of a kind whose fields have the given values. -/
inductive Form (kind : Kind) (values : List Json) : Json → Prop where
  /-- An object with the tag and the fields, and with other members that have none of their names. -/
  | object {members extra : List (String × Json)}
      (hmembers : members.Perm
        (("type", .string kind.tag) :: (kind.fieldNames.zip values ++ extra)))
      (hextra : ∀ member ∈ extra, member.1 ∉ "type" :: kind.fieldNames) :
      Form kind values (.object members)
  /-- An array of the tag and the fields. -/
  | array : Form kind values (.array (.string kind.tag :: values))

mutual

/-- The document presents the expression: each of its nodes has one of the two forms. -/
def Presents (json : Json) : Expr → Prop
  | .null => Form .null [] json
  | .boolean value => Form .boolean [.bool value] json
  | .number value => Form .number [.number value] json
  | .string value => Form .string [.string value] json
  | .moment value => Form .moment [.string value.exactText] json
  | .duration value => Form .duration [.string value.canonical] json
  | .filter ast => ∃ a, Presents a ast ∧ Form .filter [a] json
  | .array elements => ∃ items, PresentsAll items elements ∧ Form .array [.array items] json
  | .unary operator argument => ∃ a, Presents a argument ∧ Form .unary [.string operator, a] json
  | .field name => Form .field [.string name] json
  | .member object property =>
    ∃ o p, Presents o object ∧ Presents p property ∧ Form .member [o, p] json
  | .binary operator left right =>
    ∃ l r, Presents l left ∧ Presents r right ∧ Form .binary [.string operator, l, r] json
  | .term expression => ∃ a, Presents a expression ∧ Form .term [a] json
  | .fulltext text => Form .fulltext [.string text] json

/-- The documents present the expressions, one by one. -/
def PresentsAll (items : List Json) : List Expr → Prop
  | [] => items = []
  | element :: rest => ∃ json more, items = json :: more ∧ Presents json element ∧ PresentsAll more rest

end

/-! ## Fields -/

/-- The only value is read as the given one. -/
def ReadsOnly {α : Type} (values : List Json) (read : Json → Reading α) (value : α) : Prop :=
  ∃ json, values = [json] ∧ read json = .ok value

/-- The values are read as the fields of an expression, in their order. -/
def ReadsFields (values : List Json) : Expr → Prop
  | .null => values = []
  | .boolean value => ReadsOnly values readBoolean value
  | .number value => ReadsOnly values readNumber value
  | .string value => ReadsOnly values readString value
  | .moment value => ReadsOnly values readMoment value
  | .duration value => ReadsOnly values readDuration value
  | .filter ast => ReadsOnly values (ofJson true) ast
  | .array elements => ReadsOnly values nodesOf elements
  | .unary operator argument =>
    ∃ o a, values = [o, a] ∧ readString o = .ok operator ∧ ofJson true a = .ok argument
  | .field name => ReadsOnly values readString name
  | .member object property =>
    ∃ o p, values = [o, p] ∧ ofJson true o = .ok object ∧ ofJson true p = .ok property
  | .binary operator left right =>
    ∃ o l r, values = [o, l, r] ∧ readString o = .ok operator ∧ ofJson true l = .ok left ∧
      ofJson true r = .ok right
  | .term expression => ReadsOnly values (ofJson true) expression
  | .fulltext text => ReadsOnly values readString text

/-- There are as many values as fields. -/
theorem ReadsFields.map_fst_zip {values : List Json} {e : Expr} (h : ReadsFields values e) :
    (e.kind.fieldNames.zip values).map Prod.fst = e.kind.fieldNames := by
  cases e with
  | null => rfl
  | boolean | number | string | moment | duration | filter | array | field | term | fulltext =>
      obtain ⟨_, rfl, _⟩ := h
      rfl
  | unary | member =>
      obtain ⟨_, _, rfl, _⟩ := h
      rfl
  | binary =>
      obtain ⟨_, _, _, rfl, _⟩ := h
      rfl

theorem nodup_fieldNames (kind : Kind) : ("type" :: kind.fieldNames).Nodup := by
  cases kind <;> decide

/-! ## Objects -/

section Objects

variable {kind : Kind} {members known extra : List (String × Json)}

/-- A name that is given once has its value, wherever it stands. -/
theorem lookup_eq_some {name : String} {value : Json} (hmem : (name, value) ∈ members)
    (honly : ∀ member ∈ members, member.1 = name → member.2 = value) :
    members.lookup name = some value := by
  induction members with
  | nil => cases hmem
  | cons member members ih =>
      obtain ⟨key, json⟩ := member
      have htail : ∀ m ∈ members, m.1 = name → m.2 = value :=
        fun m hm => honly m (List.mem_cons_of_mem _ hm)
      rw [Json.lookup_member]
      by_cases hkey : name = key
      · have hvalue : json = value := honly (key, json) List.mem_cons_self hkey.symm
        rw [if_pos hkey, hvalue]
      · rw [if_neg hkey]
        rcases List.mem_cons.1 hmem with heq | hrest
        · exact absurd (Prod.mk.inj heq).1 hkey
        · exact ih hrest htail

/-- The tag and the fields are found in an object whatever its other members are. -/
theorem lookup_of_members (hmembers : members.Perm (known ++ extra))
    (hnames : known.map Prod.fst = "type" :: kind.fieldNames)
    (hextra : ∀ member ∈ extra, member.1 ∉ "type" :: kind.fieldNames) {name : String} {value : Json}
    (hmem : (name, value) ∈ known) : members.lookup name = some value := by
  have hnodup : (known.map Prod.fst).Nodup := hnames ▸ nodup_fieldNames kind
  apply lookup_eq_some (hmembers.mem_iff.2 (List.mem_append_left _ hmem))
  intro member hmember hname
  rcases List.mem_append.1 (hmembers.mem_iff.1 hmember) with hknown | hother
  · have heq : member = (name, value) := List.inj_on_of_nodup_map hnodup hknown hmem hname
    rw [heq]
  · have hin : member.1 ∈ known.map Prod.fst := by
      rw [hname]
      exact List.mem_map_of_mem hmem
    exact absurd (hnames ▸ hin) (hextra member hother)

/-- The fields of an object are found and read. -/
theorem hasFields_of_members {e : Expr} {values : List Json} {tag : Json}
    (hmembers : members.Perm ((("type", tag) :: e.kind.fieldNames.zip values) ++ extra))
    (hextra : ∀ member ∈ extra, member.1 ∉ "type" :: e.kind.fieldNames)
    (hfields : ReadsFields values e) : HasFields members e := by
  have hnames : (("type", tag) :: e.kind.fieldNames.zip values).map Prod.fst =
      "type" :: e.kind.fieldNames := congrArg ("type" :: ·) hfields.map_fst_zip
  have hlookup := fun name value => @lookup_of_members _ _ _ _ hmembers hnames hextra name value
  cases e with
  | null => trivial
  | boolean | number | string | moment | duration | filter | array | field | term | fulltext =>
      obtain ⟨json, rfl, hread⟩ := hfields
      exact ⟨json, hlookup _ _ (.tail _ (.head _)), hread⟩
  | unary | member =>
      obtain ⟨first, second, rfl, hfirst, hsecond⟩ := hfields
      exact ⟨⟨first, hlookup _ _ (.tail _ (.head _)), hfirst⟩,
        ⟨second, hlookup _ _ (.tail _ (.tail _ (.head _))), hsecond⟩⟩
  | binary =>
      obtain ⟨first, second, third, rfl, hfirst, hsecond, hthird⟩ := hfields
      exact ⟨⟨first, hlookup _ _ (.tail _ (.head _)), hfirst⟩,
        ⟨second, hlookup _ _ (.tail _ (.tail _ (.head _))), hsecond⟩,
        ⟨third, hlookup _ _ (.tail _ (.tail _ (.tail _ (.head _)))), hthird⟩⟩

end Objects

/-! ## Arrays -/

theorem onlyItem_singleton {α : Type} {read : Json → Reading α} {json : Json} {value : α}
    (hread : read json = .ok value) (kind : Kind) : onlyItem read kind [json] = .ok value := by
  rw [onlyItem, hread]
  rfl

/-- An array of the tag and the fields of an expression is read as the expression. -/
theorem ofJson_array (nested : Bool) {e : Expr} {values : List Json} (hfields : ReadsFields values e) :
    ofJson nested (.array (.string e.kind.tag :: values)) = .ok e := by
  unfold ofJson
  rw [readKind_tag]
  cases e with
  | null =>
      obtain rfl := hfields
      rfl
  | boolean | number | string | moment | duration | field | fulltext =>
      obtain ⟨json, rfl, hread⟩ := hfields
      show (onlyItem _ _ [json] >>= _) = _
      rw [onlyItem_singleton hread]
      rfl
  | filter | term =>
      obtain ⟨json, rfl, hread⟩ := hfields
      show (ofJson true json >>= _) = _
      rw [hread]
      rfl
  | array =>
      obtain ⟨json, rfl, hread⟩ := hfields
      show (nodesOf json >>= _) = _
      rw [hread]
      rfl
  | unary =>
      obtain ⟨operator, argument, rfl, hoperator, hargument⟩ := hfields
      show (readString operator >>= _) = _
      rw [hoperator]
      show (ofJson true argument >>= _) = _
      rw [hargument]
      rfl
  | member =>
      obtain ⟨object, property, rfl, hobject, hproperty⟩ := hfields
      show (ofJson true object >>= _) = _
      rw [hobject]
      show (ofJson true property >>= _) = _
      rw [hproperty]
      rfl
  | binary =>
      obtain ⟨operator, left, right, rfl, hoperator, hleft, hright⟩ := hfields
      show (readString operator >>= _) = _
      rw [hoperator]
      show (ofJson true left >>= _) = _
      rw [hleft]
      show (ofJson true right >>= _) = _
      rw [hright]
      rfl

/-- A node of either form is read as an expression, if its fields are. -/
theorem ofJson_of_form (nested : Bool) {e : Expr} {values : List Json} {json : Json}
    (hform : Form e.kind values json) (hfields : ReadsFields values e) : ofJson nested json = .ok e := by
  cases hform with
  | object hmembers hextra =>
      have hnames : (("type", Json.string e.kind.tag) :: e.kind.fieldNames.zip values).map Prod.fst =
          "type" :: e.kind.fieldNames := congrArg ("type" :: ·) hfields.map_fst_zip
      exact ofJson_object nested (lookup_of_members hmembers hnames hextra (.head _))
        (hasFields_of_members hmembers hextra hfields)
  | array => exact ofJson_array nested hfields

/-! ## Presentations -/

theorem nodesOf_of_presentsAll {items : List Json} {elements : List Expr}
    (helements : ∀ e ∈ elements, ∀ json, Presents json e → ofJson true json = .ok e)
    (h : PresentsAll items elements) : nodesOf (.array items) = .ok elements := by
  rw [nodesOf]
  induction elements generalizing items with
  | nil =>
      rw [PresentsAll] at h
      rw [h]
      rfl
  | cons e elements ih =>
      rw [PresentsAll] at h
      obtain ⟨json, more, rfl, hfirst, hrest⟩ := h
      rw [itemNodes, helements e List.mem_cons_self json hfirst]
      show (itemNodes more >>= _) = _
      rw [ih (fun d hd => helements d (List.mem_cons_of_mem _ hd)) hrest]
      rfl

/-- Every presentation of an expression is read as the expression. -/
theorem ofJson_of_presents (nested : Bool) (e : Expr) (htimes : ∀ d ∈ e.nodes, d.timeIsExact = true)
    {json : Json} (h : Presents json e) : ofJson nested json = .ok e := by
  induction e generalizing nested json with
  | null =>
      rw [Presents] at h
      exact ofJson_of_form nested h rfl
  | boolean | number | string | field | fulltext =>
      rw [Presents] at h
      exact ofJson_of_form nested h ⟨_, rfl, rfl⟩
  | moment m =>
      rw [Presents] at h
      exact ofJson_of_form nested h
        ⟨_, rfl, readMoment_exactText (htimes (.moment m) List.mem_cons_self)⟩
  | duration d =>
      rw [Presents] at h
      exact ofJson_of_form nested h
        ⟨_, rfl, readDuration_canonical (htimes (.duration d) List.mem_cons_self)⟩
  | filter ast ih | term ast ih =>
      rw [Presents] at h
      obtain ⟨a, ha, hform⟩ := h
      have hast := ih true (fun d hd => htimes d (List.mem_cons_of_mem _ hd)) ha
      exact ofJson_of_form nested hform ⟨a, rfl, hast⟩
  | array elements ih =>
      rw [Presents] at h
      obtain ⟨items, hitems, hform⟩ := h
      have helements := nodesOf_of_presentsAll (fun e he json => ih e he true fun d hd =>
        htimes d (List.mem_cons_of_mem _ (mem_listNodes he hd))) hitems
      exact ofJson_of_form nested hform ⟨_, rfl, helements⟩
  | unary operator argument ih =>
      rw [Presents] at h
      obtain ⟨a, ha, hform⟩ := h
      have hargument := ih true (fun d hd => htimes d (List.mem_cons_of_mem _ hd)) ha
      exact ofJson_of_form nested hform ⟨_, a, rfl, rfl, hargument⟩
  | member object property iho ihp =>
      rw [Presents] at h
      obtain ⟨o, p, ho, hp, hform⟩ := h
      have hobject := iho true (fun d hd =>
        htimes d (List.mem_cons_of_mem _ (List.mem_append_left _ hd))) ho
      have hproperty := ihp true (fun d hd =>
        htimes d (List.mem_cons_of_mem _ (List.mem_append_right _ hd))) hp
      exact ofJson_of_form nested hform ⟨o, p, rfl, hobject, hproperty⟩
  | binary operator left right ihl ihr =>
      rw [Presents] at h
      obtain ⟨l, r, hl, hr, hform⟩ := h
      have hleft := ihl true (fun d hd =>
        htimes d (List.mem_cons_of_mem _ (List.mem_append_left _ hd))) hl
      have hright := ihr true (fun d hd =>
        htimes d (List.mem_cons_of_mem _ (List.mem_append_right _ hd))) hr
      exact ofJson_of_form nested hform ⟨_, l, r, rfl, rfl, hleft, hright⟩

/-- The object with the tag and the fields in their order, and nothing else. -/
theorem form_tagged (kind : Kind) (values : List Json) :
    Form kind values (tagged kind (kind.fieldNames.zip values)) := by
  have hmembers : (("type", Json.string kind.tag) :: kind.fieldNames.zip values).Perm
      (("type", .string kind.tag) :: (kind.fieldNames.zip values ++ [])) := by
    rw [List.append_nil]
  exact .object hmembers nofun

/-- The document of an expression is one of its presentations. -/
theorem presents_toJson (e : Expr) : Presents e.toJson e := by
  induction e with
  | null | boolean | number | string | moment | duration | field | fulltext =>
      rw [Presents]
      exact form_tagged _ _
  | filter ast ih | term ast ih | unary operator ast ih =>
      rw [Presents]
      exact ⟨ast.toJson, ih, form_tagged _ _⟩
  | array elements ih =>
      rw [Presents]
      refine ⟨listToJson elements, ?_, form_tagged _ _⟩
      induction elements with
      | nil => rw [PresentsAll, listToJson]
      | cons e elements ihe =>
          have hrest := ihe fun d hd => ih d (List.mem_cons_of_mem _ hd)
          rw [PresentsAll, listToJson]
          exact ⟨_, _, rfl, ih e List.mem_cons_self, hrest⟩
  | member left right ihl ihr | binary operator left right ihl ihr =>
      rw [Presents]
      exact ⟨left.toJson, right.toJson, ihl, ihr, form_tagged _ _⟩

/-- **How a document presents a node does not matter.** If the moments of an expression are of years of
four digits and its durations are whole milliseconds, then its document is one of its presentations, and
every presentation is read as the expression, as a whole document and inside of one, and so is every text
that holds it. -/
theorem ofJson_presentation (e : Expr) (htimes : ∀ d ∈ e.nodes, d.timeIsExact = true) :
    Presents e.toJson e ∧ ∀ json, Presents json e →
      (∀ nested, ofJson nested json = .ok e) ∧
        ∀ text, Json.read text = some json → read text = .ok e := by
  refine ⟨presents_toJson e, fun json h => ?_⟩
  refine ⟨fun nested => ofJson_of_presents nested e htimes h, fun text htext => ?_⟩
  rw [read, htext]
  show (ofJson false json).mapError _ = _
  rw [ofJson_of_presents false e htimes h]
  rfl

/-- Objects and arrays inside each other, with other members of which one looks like a node of no kind and
one has the name of a field of another kind. -/
theorem ofJson_presentation_mixed :
    let e : Expr := .binary "in" (.field "a") (.array [.duration ⟨-90061001000000, by decide⟩, .null])
    let json : Json := .array [.string "BinaryExpression", .string "in",
      .object [("ast", .object [("type", .string "Nothing")]), ("name", .string "a"),
        ("type", .string "Field")],
      .object [("elements", .array [.array [.string "DurationLiteral", .string "-1.01:01:01.001"],
          .object [("type", .string "NullLiteral"), ("value", .number (.int 7))]]),
        ("type", .string "ArrayLiteral")]]
    (∀ d ∈ e.nodes, d.timeIsExact = true) ∧ Presents json e ∧ ofJson false json = .ok e := by
  intro e json
  have htimes : ∀ d ∈ e.nodes, d.timeIsExact = true := by decide
  have hpresents : Presents json e := by
    have hfield : Form .field [.string "a"] (.object [("ast", .object [("type", .string "Nothing")]),
        ("name", .string "a"), ("type", .string "Field")]) :=
      .object (List.reverse_perm _).symm fun m hm => by
        rw [List.mem_singleton.1 hm]
        decide
    have hnull : Form .null [] (.object [("type", .string "NullLiteral"),
        ("value", .number (.int 7))]) :=
      .object (List.Perm.refl _) fun m hm => by
        rw [List.mem_singleton.1 hm]
        decide
    simp only [e, json, Presents, PresentsAll]
    exact ⟨_, _, hfield, ⟨_, ⟨_, _, rfl, .array, _, _, rfl, hnull, rfl⟩,
      .object (List.reverse_perm _).symm (List.forall_mem_nil _)⟩, .array⟩
  exact ⟨htimes, hpresents, ((ofJson_presentation e htimes).2 json hpresents).1 false⟩

end Expr

end FilterQuery
