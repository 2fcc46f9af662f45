import FilterQuery.CommandLine.Run

/-!
# The program

The outer layer of the command line: it reads what a run may ask for, runs, and writes what the run
leaves.
-/

namespace FilterQuery

namespace CommandLine

/-- The fault behind an error of the system. -/
def faultOf : IO.Error → FileFault
  | .noFileOrDirectory _ _ _ => .notFound
  | .inappropriateType _ code details =>
    -- The system gives the number of an error with either sign.
    if code = 20 ∨ 0 - code = 20 then .notDirectory
    else if code = 21 ∨ 0 - code = 21 then .isDirectory
    else .other details
  | .permissionDenied _ _ _ => .other "Permission denied (os error 13)"
  | e => .other (toString e)

/-- A list of bytes as a text. -/
def textOf (bytes : ByteArray) : Except FileFault String :=
  match String.fromUTF8? bytes with
  | some text => .ok text
  | none => .error .notText

/-- The text of a file. -/
def readPath (path : String) : IO (Except FileFault String) := do
  try
    return textOf (← IO.FS.readBinFile path)
  catch e =>
    return .error (faultOf e)

/-- The variables that a run may ask for. -/
def variableNames : List String :=
  ["ES_FILTER_CONFIG", "RUST_LOG", "CLICOLOR", "CLICOLOR_FORCE", "NO_COLOR"]

/-- The world as far as a run with the given arguments may ask for it. -/
def gather (arguments : List String) : IO World := do
  let values ← variableNames.filterMapM fun name => do
    return (← IO.getEnv name).map fun value => (name, value)
  let environment := fun name => values.lookup name
  let paths :=
    match parse (environment "ES_FILTER_CONFIG") arguments with
    | .ok options => options.file :: options.config?.toList
    | .error _ => []
  let files ← paths.mapM fun path => do
    if path = "-" then return (path, .error .notFound) else return (path, ← readPath path)
  let stdin ←
    if paths.head? = some "-" then textOf <$> (← IO.getStdin).readBinToEnd else pure (.ok "")
  return {
    fileText := fun path => (files.lookup path).getD (.error .notFound)
    writeFault? := fun _ => none
    stdin, environment
    terminal := ← (← IO.getStdout).isTty }

/-- Runs the program and writes its file. If that fails, the run is repeated in a world where it
does. -/
def perform (arguments : List String) : IO Outcome := do
  let world ← gather arguments
  let outcome := run world arguments
  match outcome.written? with
  | none => return outcome
  | some (path, content) =>
    try
      IO.FS.writeFile path content
      return outcome
    catch e =>
      return run { world with writeFault? := fun _ => some (faultOf e) } arguments

end CommandLine

end FilterQuery

/-- The command line program. -/
def main (arguments : List String) : IO UInt32 := do
  let outcome ← FilterQuery.CommandLine.perform arguments
  IO.print outcome.stdout
  IO.eprint outcome.stderr
  return outcome.code.toUInt32
