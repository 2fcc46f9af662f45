import FilterQuery.Expr.Document
import FilterQuery.Expr.Reader
import FilterQuery.Proofs.DurationText
import FilterQuery.Proofs.FieldRecord
import FilterQuery.Proofs.JsonText
import FilterQuery.Proofs.MomentText

/-!
# Reading expressions back

The text of an expression is the compact text of its document. Reading it gives the document back with
its members sorted, which the reader of nodes does not see, since it takes each member by its name
(`Expr.HasFields`).

An expression holds three kinds of data that its text may not determine: floating point numbers, the
nanoseconds of a duration, and moments of years that are not written with four digits.

## Main results

* `Expr.ofJson_object` — an object with the tag and the fields of an expression is read as it.
* `Expr.read_text` — the text of an expression without such data is read as the expression.
-/

namespace FilterQuery

namespace Expr

/-! ## Reading nodes -/

/-- The kinds have different tags. -/
theorem Kind.ofTag?_tag (kind : Kind) : Kind.ofTag? kind.tag = some kind := by
  cases kind <;> rfl

/-- A tag names its kind in a nested node and in the outermost one. -/
theorem readKind_tag (nested : Bool) (kind : Kind) :
    readKind nested (.string kind.tag) = .ok kind := by
  rw [readKind, Kind.ofTag?_tag]

section Fields

variable {α : Type} {read : Json → Reading α} {name : String} {value : α}
  {members : List (String × Json)}

theorem member?_cons (read : Json → Reading α) (name key : String) (json : Json)
    (members : List (String × Json)) :
    member? read name ((key, json) :: members) =
      if key = name then (read json).map some else member? read name members := by
  rw [member?, Json.lookup_member]
  by_cases h : key = name
  · rw [if_pos h, if_pos h.symm]
  · rw [if_neg h, if_neg fun h' => h h'.symm, member?]

/-- A member that is a node is found like any other. -/
theorem memberNode_eq (name : String) (members : List (String × Json)) :
    memberNode name members = member? (ofJson true) name members := by
  induction members with
  | nil => rfl
  | cons member members ih => rw [memberNode, member?_cons, ih]

/-- So is a member that is a sequence of nodes. -/
theorem memberNodes_eq (name : String) (members : List (String × Json)) :
    memberNodes name members = member? nodesOf name members := by
  induction members with
  | nil => rfl
  | cons member members ih => rw [memberNodes, member?_cons, ih]

/-- The member of a name is there and is read as the given value. -/
def HasField (members : List (String × Json)) (name : String) (read : Json → Reading α)
    (value : α) : Prop :=
  ∃ json, members.lookup name = some json ∧ read json = .ok value

theorem HasField.member?_eq (h : HasField members name read value) :
    member? read name members = .ok (some value) := by
  obtain ⟨json, hlookup, hread⟩ := h
  rw [member?, hlookup]
  dsimp only
  rw [hread]
  rfl

theorem HasField.onlyMember_eq (h : HasField members name read value) :
    onlyMember read name members = .ok value := by
  rw [onlyMember, h.member?_eq]
  rfl

/-- A field of a written object, in the sorted object. -/
theorem hasField_of_mem {json : Json} (hnames : (members.map Prod.fst).Nodup)
    (hmem : (name, json) ∈ members) (hread : read json.sorted = .ok value) :
    HasField (Json.insertMembers [] members) name read value :=
  ⟨json.sorted, Json.lookup_insertMembers_of_mem hnames hmem [], hread⟩

end Fields

/-- The members of an object are those of an expression: each field is there and is read as the field of
the expression. Other members do not matter. -/
def HasFields (members : List (String × Json)) : Expr → Prop
  | .null => True
  | .boolean value => HasField members "value" readBoolean value
  | .number value => HasField members "value" readNumber value
  | .string value => HasField members "value" readString value
  | .moment value => HasField members "value" readMoment value
  | .duration value => HasField members "value" readDuration value
  | .filter ast => HasField members "ast" (ofJson true) ast
  | .array elements => HasField members "elements" nodesOf elements
  | .unary operator argument =>
    HasField members "operator" readString operator ∧ HasField members "argument" (ofJson true) argument
  | .field name => HasField members "name" readString name
  | .member object property =>
    HasField members "object" (ofJson true) object ∧ HasField members "property" (ofJson true) property
  | .binary operator left right =>
    HasField members "operator" readString operator ∧ HasField members "left" (ofJson true) left ∧
      HasField members "right" (ofJson true) right
  | .term expression => HasField members "expression" (ofJson true) expression
  | .fulltext text => HasField members "text" readString text

/-- An object with the tag and the fields of an expression is read as the expression. -/
theorem ofJson_object {members : List (String × Json)} {e : Expr} (nested : Bool)
    (htag : members.lookup "type" = some (.string e.kind.tag)) (hfields : HasFields members e) :
    ofJson nested (.object members) = .ok e := by
  rw [ofJson, htag]
  show (readKind nested (.string e.kind.tag) >>= _) = _
  rw [readKind_tag]
  -- The fields of a node are read in the order of their names, which is not the order of the fields.
  cases e with
  | null => rfl
  | boolean value | number value | string value | moment value | duration value | field value
  | fulltext value =>
      show (onlyMember _ _ members >>= _) = _
      rw [hfields.onlyMember_eq]
      rfl
  | filter ast | term ast =>
      show (memberNode _ members >>= _) = _
      rw [memberNode_eq, hfields.member?_eq]
      rfl
  | array elements =>
      show (memberNodes _ members >>= _) = _
      rw [memberNodes_eq, hfields.member?_eq]
      rfl
  | unary operator argument =>
      show (memberNode _ members >>= _) = _
      rw [memberNode_eq, hfields.2.member?_eq]
      show (member? _ _ members >>= _) = _
      rw [hfields.1.member?_eq]
      rfl
  | member object property =>
      show (memberNode _ members >>= _) = _
      rw [memberNode_eq, hfields.1.member?_eq]
      show (memberNode _ members >>= _) = _
      rw [memberNode_eq, hfields.2.member?_eq]
      rfl
  | binary operator left right =>
      show (memberNode _ members >>= _) = _
      rw [memberNode_eq, hfields.2.1.member?_eq]
      show (member? _ _ members >>= _) = _
      rw [hfields.1.member?_eq]
      show (memberNode _ members >>= _) = _
      rw [memberNode_eq, hfields.2.2.member?_eq]
      rfl

/-! ## Written expressions -/

/-- Whether a node is no moment or duration, or one that is written without loss: a moment of a year of
four digits, or a duration of whole milliseconds. -/
def timeIsExact : Expr → Bool
  | .moment m => 0 ≤ m.date.year && m.date.year ≤ 9999
  | .duration d => d.nanos % 1000000 == 0
  | _ => true

theorem readMoment_exactText {moment : Moment} (h : (Expr.moment moment).timeIsExact = true) :
    readMoment (.string moment.exactText) = .ok moment := by
  simp only [timeIsExact, Bool.and_eq_true, decide_eq_true_eq] at h
  rw [readMoment, Moment.parse_exactText h]
  rfl

theorem readDuration_canonical {duration : Duration}
    (h : (Expr.duration duration).timeIsExact = true) :
    readDuration (.string duration.canonical) = .ok duration := by
  simp only [timeIsExact, beq_iff_eq] at h
  rw [readDuration, Duration.parse_canonical, Duration.truncate_eq_self h]
  rfl

theorem itemNodes_sortedItems {elements : List Expr}
    (helements : ∀ e ∈ elements, ofJson true e.toJson.sorted = .ok e) :
    itemNodes (Json.sortedItems (listToJson elements)) = .ok elements := by
  induction elements with
  | nil => rfl
  | cons e elements ih =>
      have hfirst := helements e List.mem_cons_self
      have hrest := ih fun d hd => helements d (List.mem_cons_of_mem _ hd)
      rw [listToJson, Json.sortedItems, itemNodes, hfirst]
      show (itemNodes _ >>= _) = _
      rw [hrest]
      rfl

/-- A written expression is read back, if the fields of its sorted document are. -/
theorem ofJson_tagged (nested : Bool) {e : Expr} {kind : Kind} {fields : List (String × Json)}
    (hkind : e.kind = kind) (hnames : ((("type", .string kind.tag) :: fields).map Prod.fst).Nodup)
    (hfields : HasFields (Json.insertMembers [] (("type", .string kind.tag) :: fields)) e) :
    ofJson nested (tagged kind fields).sorted = .ok e := by
  have htag : (Json.insertMembers [] (("type", .string kind.tag) :: fields)).lookup "type" =
      some (Json.string kind.tag).sorted :=
    Json.lookup_insertMembers_of_mem hnames List.mem_cons_self []
  subst hkind
  exact ofJson_object nested htag hfields

/-- A written expression with one field is read back, if the field is. -/
theorem ofJson_single {α : Type} (nested : Bool) {e : Expr} {kind : Kind} {name : String}
    {json : Json} {read : Json → Reading α} {value : α} (hkind : e.kind = kind)
    (hnames : ["type", name].Nodup)
    (hfields : ∀ members, HasField members name read value → HasFields members e)
    (hread : read json.sorted = .ok value) :
    ofJson nested (tagged kind [(name, json)]).sorted = .ok e :=
  ofJson_tagged nested hkind hnames
    (hfields _ (hasField_of_mem hnames (.tail _ (.head _)) hread))

/-- The sorted document of an expression is read as the expression. -/
theorem ofJson_sorted_toJson (nested : Bool) (e : Expr)
    (htimes : ∀ d ∈ e.nodes, d.timeIsExact = true) :
    ofJson nested e.toJson.sorted = .ok e := by
  induction e generalizing nested with
  | null => exact ofJson_tagged nested rfl (by decide) trivial
  | boolean value | number value | string value | field value | fulltext value =>
      exact ofJson_single nested rfl (by decide) (fun _ h => h) rfl
  | moment m =>
      have hread := readMoment_exactText (htimes (.moment m) List.mem_cons_self)
      exact ofJson_single nested rfl (by decide) (fun _ h => h) hread
  | duration d =>
      have hread := readDuration_canonical (htimes (.duration d) List.mem_cons_self)
      exact ofJson_single nested rfl (by decide) (fun _ h => h) hread
  | filter ast ih | term ast ih =>
      have hread := ih true fun d hd => htimes d (List.mem_cons_of_mem _ hd)
      exact ofJson_single nested rfl (by decide) (fun _ h => h) hread
  | array elements ih =>
      have hread : nodesOf (Json.array (listToJson elements)).sorted = .ok elements :=
        itemNodes_sortedItems fun e he => ih e he true fun d hd =>
          htimes d (List.mem_cons_of_mem _ (mem_listNodes he hd))
      exact ofJson_single nested rfl (by decide) (fun _ h => h) hread
  | unary operator argument ih =>
      have hnames : ["type", "operator", "argument"].Nodup := by decide
      have hread := ih true fun d hd => htimes d (List.mem_cons_of_mem _ hd)
      exact ofJson_tagged nested rfl hnames
        ⟨hasField_of_mem hnames (.tail _ (.head _)) rfl,
          hasField_of_mem hnames (.tail _ (.tail _ (.head _))) hread⟩
  | member object property iho ihp =>
      have hnames : ["type", "object", "property"].Nodup := by decide
      have hobject := iho true fun d hd =>
        htimes d (List.mem_cons_of_mem _ (List.mem_append_left _ hd))
      have hproperty := ihp true fun d hd =>
        htimes d (List.mem_cons_of_mem _ (List.mem_append_right _ hd))
      exact ofJson_tagged nested rfl hnames
        ⟨hasField_of_mem hnames (.tail _ (.head _)) hobject,
          hasField_of_mem hnames (.tail _ (.tail _ (.head _))) hproperty⟩
  | binary operator left right ihl ihr =>
      have hnames : ["type", "operator", "left", "right"].Nodup := by decide
      have hleft := ihl true fun d hd =>
        htimes d (List.mem_cons_of_mem _ (List.mem_append_left _ hd))
      have hright := ihr true fun d hd =>
        htimes d (List.mem_cons_of_mem _ (List.mem_append_right _ hd))
      exact ofJson_tagged nested rfl hnames
        ⟨hasField_of_mem hnames (.tail _ (.head _)) rfl,
          hasField_of_mem hnames (.tail _ (.tail _ (.head _))) hleft,
          hasField_of_mem hnames (.tail _ (.tail _ (.tail _ (.head _)))) hright⟩

theorem numbers_tagged (kind : Kind) (fields : List (String × Json)) :
    (tagged kind fields).numbers = Json.membersNumbers fields := rfl

/-- The text of a document with one field is read back, if the field is no array and no object. -/
theorem read_compact_single (kind : Kind) (name : String) {json : Json}
    (hnumbers : ∀ n ∈ json.numbers, n.isWord = true) (hdepth : json.depth = 0) :
    Json.read (tagged kind [(name, json)]).compact = some (tagged kind [(name, json)]).sorted := by
  rw [Json.read, Json.readStrict_compact, Option.some_or]
  · rw [numbers_tagged, Json.membersNumbers, Json.membersNumbers, List.append_nil]
    exact hnumbers
  · simp only [tagged, Json.depth, Json.membersDepth]
    omega

theorem mem_listNodes_of_mem_numbers {n : Number} {elements : List Expr}
    (helements : ∀ e ∈ elements, n ∈ e.toJson.numbers → .number n ∈ e.nodes)
    (h : n ∈ Json.itemsNumbers (listToJson elements)) : .number n ∈ listNodes elements := by
  induction elements with
  | nil => cases h
  | cons e elements ih =>
      rw [listToJson, Json.itemsNumbers, List.mem_append] at h
      rw [listNodes, List.mem_append]
      rcases h with h | h
      · exact .inl (helements e List.mem_cons_self h)
      · exact .inr (ih (fun d hd => helements d (List.mem_cons_of_mem _ hd)) h)

/-- The numbers of a document are those of number nodes. -/
theorem mem_nodes_of_mem_numbers {n : Number} (e : Expr) (h : n ∈ e.toJson.numbers) :
    .number n ∈ e.nodes := by
  induction e with
  | null | boolean | string | moment | duration | field | fulltext => cases h
  | number value =>
      rw [List.mem_singleton.1 h]
      exact List.mem_cons_self
  | filter ast ih | term ast ih | unary operator ast ih =>
      simp only [toJson, numbers_tagged, Json.membersNumbers, Json.numbers, List.append_nil,
        List.nil_append] at h
      exact List.mem_cons_of_mem _ (ih h)
  | array elements ih =>
      simp only [toJson, numbers_tagged, Json.membersNumbers, Json.numbers, List.append_nil] at h
      exact List.mem_cons_of_mem _ (mem_listNodes_of_mem_numbers ih h)
  | member left right ihl ihr | binary operator left right ihl ihr =>
      simp only [toJson, numbers_tagged, Json.membersNumbers, Json.numbers, List.append_nil,
        List.nil_append, List.mem_append] at h
      rcases h with h | h
      · exact List.mem_cons_of_mem _ (List.mem_append_left _ (ihl h))
      · exact List.mem_cons_of_mem _ (List.mem_append_right _ (ihr h))

/-- **Written expressions are read back.** The text of an expression is read as the expression, if its
numbers are integers of 64 bits, its moments are of years of four digits, its durations are whole
milliseconds, and no more than 127 arrays and objects of the text are nested in each other. -/
theorem read_text (e : Expr) (hnumbers : ∀ n, Expr.number n ∈ e.nodes → n.isWord = true)
    (htimes : ∀ d ∈ e.nodes, d.timeIsExact = true) (hdepth : e.toJson.depth ≤ 127) :
    read e.text = .ok e := by
  have hwords : ∀ n ∈ e.toJson.numbers, n.isWord = true :=
    fun n hn => hnumbers n (mem_nodes_of_mem_numbers e hn)
  have hdocument : Json.read e.text = some e.toJson.sorted := by
    rw [Json.read, text, Json.readStrict_compact hwords hdepth, Option.some_or]
  rw [read, hdocument]
  show (ofJson false e.toJson.sorted).mapError _ = _
  rw [ofJson_sorted_toJson false e htimes]
  rfl

/-- A path with a quote, a backslash, a control and other characters, the two limits of integers, a leap
second with a fraction, and a negative duration. -/
theorem read_text_limits :
    let e : Expr := .binary "in" (.member (.field "\"k\\\x01") (.field "é\n"))
      (.array [.number (.int 18446744073709551615), .number (.int (-9223372036854775808)),
        .moment ⟨1483228799, 1500000000, by decide, by decide, by decide, by decide⟩,
        .duration ⟨-90061001000000, by decide⟩])
    (∀ n, Expr.number n ∈ e.nodes → n.isWord = true) ∧ (∀ d ∈ e.nodes, d.timeIsExact = true) ∧
      e.toJson.depth ≤ 127 ∧ read e.text = .ok e := by
  intro e
  have hnumbers : ∀ n, Expr.number n ∈ e.nodes → n.isWord = true := by
    intro n hn
    simp only [e, nodes, listNodes, List.mem_cons, List.mem_append, List.not_mem_nil, or_false,
      false_or, reduceCtorEq, Expr.number.injEq] at hn
    rcases hn with rfl | rfl
    · decide
    · decide
  have htimes : ∀ d ∈ e.nodes, d.timeIsExact = true := by decide
  have hdepth : e.toJson.depth ≤ 127 := by decide
  exact ⟨hnumbers, htimes, hdepth, read_text e hnumbers htimes hdepth⟩

end Expr

end FilterQuery
