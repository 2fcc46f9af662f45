import FilterQuery.Text.Split

/-!
# Files

Why a file cannot be read or written, and a working directory that is kept in memory.
-/

namespace FilterQuery

/-- Why a file cannot be read or written. -/
inductive FileFault where
  | notFound
  | notDirectory
  | isDirectory
  /-- The content is not encoded in UTF-8. -/
  | notText
  | other (message : String)
deriving DecidableEq

/-- The wording of a fault, with its number where the system has one. -/
def FileFault.message : FileFault → String
  | .notFound => "No such file or directory (os error 2)"
  | .notDirectory => "Not a directory (os error 20)"
  | .isDirectory => "Is a directory (os error 21)"
  | .notText => "stream did not contain valid UTF-8"
  | .other message => message

/-- A working directory without subdirectories: its files with their contents. A file that holds no text
has none. -/
structure Directory where
  files : List (String × Option String)
deriving DecidableEq

namespace Directory

/-- What a path names. -/
inductive Place where
  | directory
  | file (name : String) (content? : Option String)
  /-- No file; one of this name could be made. -/
  | free (name : String)
  /-- No file, and none can be made, since the path ends like that of a directory. -/
  | freeDirectory
deriving DecidableEq

/-- Whether the part of a path stays where it is. -/
def staysPut (part : String) : Bool :=
  part == "" || part == "."

/-- What a list of parts names, from the working directory on. Nothing is known of what lies outside but
that the directories on the way up are there. -/
def locateParts (directory : Directory) : List String → Except FileFault Place
  | [] => .ok .directory
  | part :: rest =>
    if staysPut part then directory.locateParts rest
    else if part = ".." then
      if rest.all fun part => staysPut part || part == ".." then .ok .directory else .error .notFound
    else
      match directory.files.lookup part with
      | some content? => if rest.isEmpty then .ok (.file part content?) else .error .notDirectory
      | none =>
        if rest.isEmpty then .ok (.free part)
        else if rest.all staysPut then .ok .freeDirectory
        else .error .notFound

/-- What a path names. -/
def locate (directory : Directory) (path : String) : Except FileFault Place :=
  match path.toList with
  | [] => .error .notFound
  | '/' :: rest => if rest.all (· == '/') then .ok .directory else .error .notFound
  | _ => directory.locateParts ((Text.splitChars '/' path.toList).map String.ofList)

/-- The text of a file. -/
def read (directory : Directory) (path : String) : Except FileFault String := do
  match ← directory.locate path with
  | .file _ (some text) => return text
  | .file _ none => throw .notText
  | .directory => throw .isDirectory
  | .free _ => throw .notFound
  | .freeDirectory => throw .notFound

/-- The name of the file that is written under a path. -/
def target (directory : Directory) (path : String) : Except FileFault String := do
  match ← directory.locate path with
  | .file name _ => return name
  | .free name => return name
  | .directory => throw .isDirectory
  | .freeDirectory => throw .isDirectory

/-- Why no file can be written under a path, if none can. -/
def writeFault? (directory : Directory) (path : String) : Option FileFault :=
  match directory.target path with
  | .ok _ => none
  | .error fault => some fault

/-- The directory after a file is written. -/
def write (directory : Directory) (path content : String) : Directory :=
  match directory.target path with
  | .ok name => ⟨(name, some content) :: directory.files.filter (·.1 != name)⟩
  | .error _ => directory

end Directory

end FilterQuery
