import FilterQuery.Toml

/-!
# The tables of a TOML document

The statements of a document build one tree of tables. A table may be named by a header once, also after
it came into being as a part of another header's path, and the tables that a dotted key makes belong to
the keys: a header cannot name them again, and a dotted key cannot extend a table that a header named.
-/

namespace FilterQuery

namespace Toml

/-- How a table came into being. -/
inductive Origin where
  /-- As a part of the path of a header. -/
  | path
  /-- By a header of its own, or as the table of the whole document. -/
  | header
  /-- As a part of a dotted key. -/
  | dotted
deriving DecidableEq

/-- A part of a document that is being read. -/
inductive Tree where
  /-- A value that is complete. -/
  | value (value : Toml)
  | table (origin : Origin) (members : List (String × Tree))
  /-- Tables under headers of the same name, the last one first. -/
  | tables (last : List (String × Tree)) (before : List (List (String × Tree)))

/-- The members of a table. -/
abbrev Members := List (String × Tree)

namespace Tree

/-- The members with a change of one of them, which may be missing. Members keep their places. -/
def alter (members : Members) (key : String) (change : Option Tree → Option Tree) : Option Members :=
  match members with
  | [] => (change none).map fun tree => [(key, tree)]
  | (k, tree) :: rest =>
    if k = key then (change (some tree)).map fun tree => (k, tree) :: rest
    else (alter rest key change).map ((k, tree) :: ·)

/-- Changes the table at the end of a path. The tables on the way that are missing are made, with the
given origin; what is not a table that may be passed stops the change. -/
def descend (origin : Origin) (change : Origin → Members → Option (Origin × Members)) :
    List String → Origin → Members → Option (Origin × Members)
  | [], current, members => change current members
  | key :: path, current, members => do
    let members ← alter members key fun tree? =>
      match tree? with
      | none => do
        let (made, inner) ← descend origin change path origin []
        return .table made inner
      | some (.table found inner) =>
        if origin = .dotted ∧ found = .header then none
        else do
          let (kept, inner) ← descend origin change path found inner
          return .table kept inner
      | some (.tables last before) => do
        let (_, last) ← descend origin change path .header last
        return .tables last before
      | some (.value _) => none
    return (current, members)

/-- Adds a value under a dotted key to a table. The table that holds the last part of a key with several
parts has to be one that dotted keys made. -/
def insertKey (path : List String) (key : String) (value : Toml) (origin : Origin)
    (members : Members) : Option (Origin × Members) :=
  descend .dotted
    (fun found members =>
      if path ≠ [] ∧ found ≠ .dotted then none
      else do
        let members ← alter members key fun tree? =>
          match tree? with
          | none => some (.value value)
          | some _ => none
        return (found, members))
    path origin members

/-- Opens the table of a header. -/
def openTable (path : List String) (key : String) (members : Members) : Option Members := do
  let (_, members) ← descend .path
    (fun found members => do
      let members ← alter members key fun tree? =>
        match tree? with
        | none => some (.table .header [])
        | some (.table .path inner) => some (.table .header inner)
        | some _ => none
      return (found, members))
    path .header members
  return members

/-- Opens one more table under a header of several tables. -/
def openTables (path : List String) (key : String) (members : Members) : Option Members := do
  let (_, members) ← descend .path
    (fun found members => do
      let members ← alter members key fun tree? =>
        match tree? with
        | none => some (.tables [] [])
        | some (.tables last before) => some (.tables [] (last :: before))
        | some _ => none
      return (found, members))
    path .header members
  return members

/-- Adds a value under a dotted key to the table that the last header opened. -/
def insertUnder (header path : List String) (key : String) (value : Toml) (members : Members) :
    Option Members := do
  let (_, members) ← descend .path (fun found members => insertKey path key value found members)
    header .header members
  return members

mutual

/-- The value of a part of a document. -/
def toToml : Tree → Toml
  | .value v => v
  | .table _ members => .table (membersToToml members)
  | .tables last before => .array (listToToml before [.table (membersToToml last)])

/-- The values of the members of a table. -/
def membersToToml : List (String × Tree) → List (String × Toml)
  | [] => []
  | (key, tree) :: rest => (key, tree.toToml) :: membersToToml rest

/-- The tables of a list, in the reverse order, in front of the given ones. -/
def listToToml : List (List (String × Tree)) → List Toml → List Toml
  | [], after => after
  | members :: rest, after => listToToml rest (.table (membersToToml members) :: after)

end

end Tree

end Toml

end FilterQuery
