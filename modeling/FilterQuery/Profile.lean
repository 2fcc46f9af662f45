import FilterQuery.Files
import FilterQuery.Toml.Reader

/-!
# Profiles

A profile is a name and the skip field that goes with it. It is written in TOML:

    profile_name = "access-logs"

    [compiler]
    skip_field = "time"

What a profile leaves out has a default, and keys that it does not know are passed over. The compiler's
part may also be an array of its fields in their order.
-/

namespace FilterQuery

/-- A named choice of the skip field. -/
structure Profile where
  name : String
  skipField? : Option String
deriving DecidableEq

namespace Profile

/-- The profile that is used when no other one is given. -/
def base : Profile :=
  ⟨"base", none⟩

/-- A text, which another value cannot stand for. -/
def textOf? : Toml → Option String
  | .string s => some s
  | _ => none

/-- The skip field of the compiler's part. Of an array only the first item counts. A date or time has
none of the keys, so that it leaves the default. -/
def skipFieldOf? : Toml → Option (Option String)
  | .table members =>
    match members.lookup "skip_field" with
    | some value => (textOf? value).map some
    | none => some none
  | .array [] => some none
  | .array (value :: _) => (textOf? value).map some
  | .datetime _ => some none
  | _ => none

/-- The profile with the given members. -/
def ofMembers? (members : List (String × Toml)) : Option Profile := do
  let name ←
    match members.lookup "profile_name" with
    | some value => textOf? value
    | none => some base.name
  let skipField? ←
    match members.lookup "compiler" with
    | some value => skipFieldOf? value
    | none => some base.skipField?
  return ⟨name, skipField?⟩

/-- The profile of a text. -/
def read (text : String) : Option Profile :=
  (Toml.read text).bind ofMembers?

/-- Why a profile cannot be loaded from a file. -/
inductive LoadError where
  | unreadable (path : String) (fault : FileFault)
  /-- The text is no TOML document, or a document of another shape. -/
  | malformed (path : String)
deriving DecidableEq

/-- The wording of a load error. -/
def LoadError.message : LoadError → String
  | .unreadable path fault => "Failed to read config file '" ++ path ++ "': " ++ fault.message
  | .malformed path => "Failed to parse config file '" ++ path ++ "': not a profile"

/-- The profile in a file, given how files are read. -/
def load (fileText : String → Except FileFault String) (path : String) :
    Except LoadError Profile :=
  match fileText path with
  | .error fault => .error (.unreadable path fault)
  | .ok text =>
    match read text with
    | some profile => .ok profile
    | none => .error (.malformed path)

/-- The skip field after the choices of a caller, who may name another one, and may want none. -/
def choose (profile : Profile) (override? : Option String) (disabled : Bool) : Option String :=
  if disabled then none else override?.or profile.skipField?

end Profile

end FilterQuery
