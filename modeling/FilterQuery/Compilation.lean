import FilterQuery.Compile.Walk

/-!
# Compilations

The result of compiling an expression: the filter, the fields that it refers to and the comparisons
that were dropped for the skip field.
-/

namespace FilterQuery

/-- A compiled expression. -/
structure Compilation where
  filter : Clause
  /-- The fields that the expression refers to, once for each reference, in the order of the visit. -/
  fields : List String
  /-- The skip field, once for each comparison on it that became a clause that matches everything. -/
  skipped : List String
deriving Inhabited

/-- A field with the number of references to it. -/
structure FieldUsage where
  field : String
  count : Nat
deriving DecidableEq

/-- Compiles an expression. Comparisons on the skip field, if there is one, are dropped. -/
def compile (skip? : Option String) (e : Expr) : Except CompileError Compilation := do
  let (outcome, trace) ← Walk.visit skip? e ⟨[], []⟩
  let filter ← outcome.toFilter .root
  return ⟨filter, trace.fields, trace.skipped⟩

/-- One more reference to a field, counted with its first one. -/
def countField (usage : List FieldUsage) (field : String) : List FieldUsage :=
  match usage with
  | [] => [⟨field, 1⟩]
  | entry :: rest =>
    if entry.field = field then ⟨field, entry.count + 1⟩ :: rest
    else entry :: countField rest field

/-- The different fields of a list in the order of their first references, with their counts. -/
def usageOf (fields : List String) : List FieldUsage :=
  fields.foldl countField []

/-- The different texts of a list in the order of their first occurrences. -/
def distinct (texts : List String) : List String :=
  texts.foldl (fun seen text => if seen.contains text then seen else seen ++ [text]) []

namespace Compilation

/-- Whether the expression refers to a field. -/
def references (c : Compilation) (field : String) : Bool :=
  c.fields.contains field

/-- Whether a comparison was dropped. -/
def skipApplied (c : Compilation) : Bool :=
  !c.skipped.isEmpty

/-- The different fields with their counts. -/
def usage (c : Compilation) : List FieldUsage :=
  usageOf c.fields

end Compilation

end FilterQuery
