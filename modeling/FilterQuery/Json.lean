import FilterQuery.Number

/-!
# JSON documents

A document is a tree of values. The members of an object stand in the order in which they are written
and visited; the readers sort them by key.
-/

namespace FilterQuery

/-- A JSON value. -/
inductive Json where
  | null
  | bool (value : Bool)
  | number (value : Number)
  | string (value : String)
  | array (items : List Json)
  | object (members : List (String × Json))
deriving Inhabited

namespace Json

/-- An integer as a value. -/
def ofNat (n : Nat) : Json :=
  .number (.int n)

/-- A list of texts as a value. -/
def ofStrings (texts : List String) : Json :=
  .array (texts.map .string)

/-- The members with one more, in the order of the keys. A member with the same key is replaced. -/
def insertMember (key : String) (value : Json) : List (String × Json) → List (String × Json)
  | [] => [(key, value)]
  | (k, v) :: rest =>
    if key < k then (key, value) :: (k, v) :: rest
    else if key = k then (key, value) :: rest
    else (k, v) :: insertMember key value rest

end Json

end FilterQuery
