import FilterQuery.Operator
import FilterQuery.Value

/-!
# Filter clauses

The clauses of the search engine that a filter expression compiles to. A clause carries its field and
its value; the objects keyed by the field that the engine expects exist only in its JSON form.
-/

namespace FilterQuery

/-- How a boolean clause combines its children. -/
inductive Occur where
  | must
  | should
  | mustNot
deriving DecidableEq

/-- The name of the combination in a boolean clause. -/
def Occur.key : Occur → String
  | .must => "must"
  | .should => "should"
  | .mustNot => "must_not"

/-- A filter clause. -/
inductive Clause where
  | matchAll
  | bool (occur : Occur) (clauses : List Clause)
  | not (clause : Clause)
  | term (field : String) (value : Value)
  | terms (field : String) (values : List Value)
  | range (field : String) (bound : Bound) (value : Value)
  /-- Matches the documents that do not have the field. -/
  | missing (field : String)
  /-- Matches a text with a pattern of stars and question marks. -/
  | wildcard (field : String) (pattern : String)
  | matchPhrase (field : String) (text : String)
deriving Inhabited

namespace Clause

/-- The field that stands for all fields of a document. -/
def allFields : String := "_all"

/-- Whether the clause matches every document by its form. -/
def isMatchAll : Clause → Bool
  | .matchAll => true
  | _ => false

/-- An object with one member. -/
def keyed (key : String) (value : Json) : Json :=
  .object [(key, value)]

mutual

/-- The clause in the form that the engine reads. -/
def toJson : Clause → Json
  | .matchAll => keyed "match_all" (.object [])
  | .bool occur clauses => keyed "bool" (keyed occur.key (.array (listToJson clauses)))
  | .not clause => keyed "not" clause.toJson
  | .term field value => keyed "term" (keyed field value.toJson)
  | .terms field values => keyed "terms" (keyed field (.array (Value.listToJson values)))
  | .range field bound value => keyed "range" (keyed field (keyed bound.key value.toJson))
  | .missing field => keyed "missing" (keyed "field" (.string field))
  | .wildcard field pattern => keyed "query" (keyed "wildcard" (keyed field (.string pattern)))
  | .matchPhrase field text => keyed "query" (keyed "match_phrase" (keyed field (.string text)))

/-- The clauses of a list in the form that the engine reads. -/
def listToJson : List Clause → List Json
  | [] => []
  | clause :: rest => clause.toJson :: listToJson rest

end

end Clause

end FilterQuery
