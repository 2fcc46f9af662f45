import FilterQuery.Binary64

/-!
# TOML values

The values of a TOML document, in which a profile is written. A date or time is kept as it is written.
-/

namespace FilterQuery

/-- A TOML value. -/
inductive Toml where
  | string (value : String)
  | integer (value : Int)
  | float (value : Binary64)
  | boolean (value : Bool)
  | datetime (text : String)
  | array (items : List Toml)
  | table (members : List (String × Toml))
deriving Inhabited

end FilterQuery
