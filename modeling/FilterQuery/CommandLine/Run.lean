import FilterQuery.CommandLine.Arguments
import FilterQuery.CommandLine.Log
import FilterQuery.Expr.Reader
import FilterQuery.Profile

/-!
# Running the program

A run is a function from the arguments and the world around the program to what the program leaves: its
exit code, its two outputs and the file that it writes. It first makes the report, which only reads and
logs, and then publishes it, so that a run that fails before has written nothing.
-/

namespace FilterQuery

namespace CommandLine

/-- The world around the program. -/
structure World where
  /-- The text of the file under a path. -/
  fileText : String → Except FileFault String
  /-- Why no file can be written under a path, if none can. -/
  writeFault? : String → Option FileFault
  stdin : Except FileFault String
  /-- The value of an environment variable. -/
  environment : String → Option String
  /-- Whether the standard output is a terminal. Styles depend on it, tables do not. -/
  terminal : Bool

/-- What a run leaves. -/
structure Outcome where
  code : Nat
  stdout : String
  stderr : String
  /-- The path and the content of the file that is written, if one is. -/
  written? : Option (String × String)
deriving DecidableEq

/-- Why a run fails. -/
inductive Failure where
  | profile (cause : Profile.LoadError)
  | unreadableInput (fault : FileFault)
  | unreadableFile (path : String) (fault : FileFault)
  | undecodable (path : String) (cause : Expr.ReadError)
  | uncompilable (path : String) (cause : CompileError)
  | unwritable (path : String) (fault : FileFault)
deriving DecidableEq

/-- The wording of a failure: what was tried, and the causes behind it. A cause that words the one behind
it as well is followed by it once more. -/
def Failure.message : Failure → String
  | .profile cause =>
    let behind :=
      match cause with
      | .unreadable _ fault => ": " ++ fault.message
      | .malformed _ => ": not a profile"
    "Failed to load config: " ++ cause.message ++ behind
  | .unreadableInput fault => "Failed to read AST from stdin: " ++ fault.message
  | .unreadableFile path fault => "Failed to read AST file '" ++ path ++ "': " ++ fault.message
  | .undecodable path cause =>
    let behind :=
      match cause with
      | .malformed => ""
      | .unsupported node => ": " ++ node.message
    "Failed to decode AST '" ++ path ++ "': " ++ cause.message ++ behind
  | .uncompilable path cause => "Failed to compile filter '" ++ path ++ "': " ++ cause.message
  | .unwritable path fault => "Failed to write output file '" ++ path ++ "': " ++ fault.message

/-! ## Making the report -/

/-- A step that may fail and that logs. -/
abbrev Making (α : Type) := ExceptT Failure (StateM (List Record)) α

/-- Logs a message for debugging. -/
def debug (message : String) : Making Unit :=
  modify (· ++ [⟨.debug, message⟩])

/-- The profile of the options. -/
def loadProfile (world : World) (options : Options) : Except Failure Profile :=
  match options.config? with
  | none => .ok .base
  | some path => (Profile.load world.fileText path).mapError .profile

/-- The text of the expression. -/
def readInput (world : World) (file : String) : Except Failure String :=
  if file = "-" then world.stdin.mapError .unreadableInput
  else (world.fileText file).mapError (.unreadableFile file)

/-- The expression of a text. -/
def decode (file text : String) : Except Failure Expr :=
  (Expr.read text).mapError (.undecodable file)

/-- The compilation of an expression. -/
def compileFile (file : String) (skip? : Option String) (e : Expr) : Except Failure Compilation :=
  (compile skip? e).mapError (.uncompilable file)

/-- Whether texts are colored, when the environment decides: forced colors first, then colors that are
not wanted, then the terminal. -/
def autoColor (world : World) : Bool :=
  if (world.environment "CLICOLOR_FORCE").any (· != "0") then true
  else if (world.environment "NO_COLOR").isSome then false
  else world.terminal && (world.environment "CLICOLOR").all (· != "0")

/-- Whether texts are colored. -/
def showsColor (world : World) : ColorMode → Bool
  | .always => true
  | .never => false
  | .auto => autoColor world

/-- The report of a compilation in the form that the options ask for. -/
def render (world : World) (options : Options) (c : Compilation) : String :=
  match options.format with
  | .json => Report.json options.subject options.compact c
  | .text => Report.text options.subject (showsColor world options.color) c

/-- An optional text as a log shows it. -/
def optionText : Option String → String
  | none => "None"
  | some text => "Some(" ++ Text.quote text ++ ")"

/-- The skip field of a run: loads the profile and chooses. -/
def chooseSkipField (world : World) (options : Options) : Making (Option String) := do
  let profile ← loadProfile world options
  let skip? := profile.choose options.skipField? options.noSkipField
  debug ("Config profile: " ++ profile.name)
  if let some path := options.config? then
    debug ("Config file: " ++ path)
  debug ("Skip field: " ++ optionText skip?)
  return skip?

/-- The compilation of the input: reads the expression and compiles it. -/
def compileInput (world : World) (options : Options) (skip? : Option String) :
    Making Compilation := do
  let text ← readInput world options.file
  let expr ← decode options.file text
  debug ("Decoded " ++ expr.kind.tag ++ " root from " ++ options.file)
  let c ← compileFile options.file skip? expr
  debug ("Compiled filter referencing " ++ String.ofList (Decimal.digitsOf c.fields.length) ++
    " field(s): " ++ Text.quoteList c.fields)
  if c.skipApplied then
    debug ("Compiled to match_all: " ++ Text.quoteList c.skipped)
  return c

/-- Makes the report. -/
def makeReport (world : World) (options : Options) : Making String := do
  let skip? ← chooseSkipField world options
  let c ← compileInput world options skip?
  return render world options c

/-! ## Publishing it -/

/-- The rank up to which messages are shown, by the options alone. -/
def Options.threshold (options : Options) : Nat :=
  if options.quiet then Level.error.rank
  else
    match options.verbosity with
    | 0 => Level.warn.rank
    | 1 => Level.info.rank
    | 2 => Level.debug.rank
    | _ => Level.trace.rank

/-- The lines of the log: the warnings about the environment's directives, and the messages up to the
threshold. -/
def logText (world : World) (options : Options) (records : List Record) : String :=
  let (directives, warnings) := readDirectives ((world.environment "RUST_LOG").getD "")
  String.join (warnings.map fun warning => "warning: " ++ warning ++ ", ignoring it\n") ++
    logLines (thresholdOf options.threshold directives) records

/-- The line of a failure. -/
def failureLine (failure : Failure) : String :=
  "Error: " ++ failure.message ++ "\n"

/-- A report as it is printed: with one line break at its end. -/
def printed (report : String) : String :=
  String.ofList (Text.trimEnd report.toList) ++ "\n"

/-- Prints a report, and then writes it to the output file, if there is one. -/
def publish (world : World) (options : Options) (records : List Record) (report : String) : Outcome :=
  match options.output? with
  | none => ⟨0, printed report, logText world options records, none⟩
  | some path =>
    match world.writeFault? path with
    | none =>
      let records := records ++ [⟨.info, "Output written to " ++ path⟩]
      ⟨0, printed report, logText world options records, some (path, report)⟩
    | some fault =>
      ⟨1, printed report,
        logText world options records ++ failureLine (.unwritable path fault), none⟩

/-- Runs the program with options. -/
def runOptions (world : World) (options : Options) : Outcome :=
  match makeReport world options [] with
  | (.ok report, records) => publish world options records report
  | (.error failure, records) =>
    ⟨1, "", logText world options records ++ failureLine failure, none⟩

/-! ## The whole program -/

/-- The name of the program and its version. -/
def versionText : String := "es-filter 0.1.0\n"

/-- How the program is used. -/
def usageText : String :=
  "Usage: es-filter [OPTIONS] <compile|fields> <FILE>\n"

/-- Runs the program with arguments. -/
def run (world : World) (arguments : List String) : Outcome :=
  match parse (world.environment "ES_FILTER_CONFIG") arguments with
  | .ok options => runOptions world options
  | .error .version => ⟨0, versionText, "", none⟩
  | .error .help => ⟨0, usageText, "", none⟩
  | .error .misuse => ⟨2, "", usageText, none⟩

end CommandLine

end FilterQuery
