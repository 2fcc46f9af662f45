import FilterQuery.Report

/-!
# Command line arguments

The program takes a command with a file, and options that may stand before the command or after it. An
option may be given once on either side, apart from the one that counts; what stands after the command
wins. The arguments are read from left to right, and the first one that is wrong, or that asks for the
version or for help, decides.
-/

namespace FilterQuery

namespace CommandLine

/-- How a report is printed. -/
inductive Format where
  | text
  | json
deriving DecidableEq

/-- When a text is printed with colors. -/
inductive ColorMode where
  | auto
  | always
  | never
deriving DecidableEq

/-- What the program is asked to do. -/
structure Options where
  subject : Subject
  /-- The file with the expression; a dash stands for the standard input. -/
  file : String
  config? : Option String
  skipField? : Option String
  noSkipField : Bool
  format : Format
  compact : Bool
  output? : Option String
  color : ColorMode
  verbosity : Nat
  quiet : Bool
deriving DecidableEq

/-- The options that one side of the command gives. -/
structure Given where
  config? : Option String
  skipField? : Option String
  noSkipField : Bool
  format? : Option Format
  compact : Bool
  output? : Option String
  color? : Option ColorMode
  verbosity : Nat
  quiet : Bool
deriving DecidableEq

/-- No option is given. -/
def Given.nothing : Given :=
  ⟨none, none, false, none, false, none, none, 0, false⟩

/-- An option without a value. -/
inductive Flag where
  | noSkipField
  | compact
  | verbose
  | quiet
  | version
  | help
deriving DecidableEq

/-- An option with a value. -/
inductive Setting where
  | config
  | skipField
  | format
  | output
  | color
deriving DecidableEq

/-- The option with a long name. -/
def longOption? (name : String) : Option (Flag ⊕ Setting) :=
  match name with
  | "no-skip-field" => some (.inl .noSkipField)
  | "compact" => some (.inl .compact)
  | "verbose" => some (.inl .verbose)
  | "quiet" => some (.inl .quiet)
  | "version" => some (.inl .version)
  | "help" => some (.inl .help)
  | "config" => some (.inr .config)
  | "skip-field" => some (.inr .skipField)
  | "format" => some (.inr .format)
  | "output" => some (.inr .output)
  | "color" => some (.inr .color)
  | _ => none

/-- The option with a letter. -/
def shortOption? (letter : Char) : Option (Flag ⊕ Setting) :=
  match letter with
  | 'v' => some (.inl .verbose)
  | 'q' => some (.inl .quiet)
  | 'V' => some (.inl .version)
  | 'h' => some (.inl .help)
  | 'F' => some (.inr .format)
  | 'o' => some (.inr .output)
  | _ => none

/-- What ends the reading of arguments before the program can run. -/
inductive Stop where
  /-- The arguments are wrong. -/
  | misuse
  | version
  | help
deriving DecidableEq

/-- The options after one more flag. The version is only asked for before the command. -/
def Given.raise (given : Given) (beforeCommand : Bool) : Flag → Except Stop Given
  | .noSkipField =>
    if given.noSkipField then .error .misuse else .ok { given with noSkipField := true }
  | .compact => if given.compact then .error .misuse else .ok { given with compact := true }
  | .quiet => if given.quiet then .error .misuse else .ok { given with quiet := true }
  | .verbose => .ok { given with verbosity := given.verbosity + 1 }
  | .version => if beforeCommand then .error .version else .error .misuse
  | .help => .error .help

/-- The format with the given name. -/
def Format.ofName? (name : String) : Option Format :=
  if name = "text" then some .text else if name = "json" then some .json else none

/-- The color mode with the given name. -/
def ColorMode.ofName? (name : String) : Option ColorMode :=
  if name = "auto" then some .auto
  else if name = "always" then some .always
  else if name = "never" then some .never
  else none

/-- A path, which cannot be empty. -/
def path? (text : String) : Option String :=
  if text = "" then none else some text

/-- A setting that is not given yet. -/
def fresh {α : Type} (given? : Option α) (value? : Option α) : Except Stop (Option α) :=
  match given?, value? with
  | none, some value => .ok (some value)
  | _, _ => .error .misuse

/-- The options after one more setting. -/
def Given.set (given : Given) (value : String) : Setting → Except Stop Given
  | .config => do return { given with config? := ← fresh given.config? (path? value) }
  | .skipField => do return { given with skipField? := ← fresh given.skipField? (some value) }
  | .format => do return { given with format? := ← fresh given.format? (Format.ofName? value) }
  | .output => do return { given with output? := ← fresh given.output? (path? value) }
  | .color => do return { given with color? := ← fresh given.color? (ColorMode.ofName? value) }

/-- What an argument with options leads to: the options after it, and the setting whose value is the next
argument, if there is one. -/
abbrev Step := Except Stop (Given × Option Setting)

/-- A long option, which may have its value after an equals sign. -/
def readLong (beforeCommand : Bool) (given : Given) (text : List Char) : Step := do
  let name := String.ofList (text.takeWhile (· != '='))
  match longOption? name, text.dropWhile (· != '=') with
  | some (.inl flag), [] => return (← given.raise beforeCommand flag, none)
  | some (.inr setting), [] => return (given, some setting)
  | some (.inr setting), _ :: value => return (← given.set (String.ofList value) setting, none)
  | _, _ => throw .misuse

/-- The value of a setting that stands right after its letter, where an equals sign may come between. -/
def attachedValue : List Char → String
  | '=' :: value => String.ofList value
  | value => String.ofList value

/-- A run of letters. A setting takes what follows it as its value. -/
def readLetters (beforeCommand : Bool) (given : Given) : List Char → Step
  | [] => .ok (given, none)
  | letter :: rest => do
    match shortOption? letter with
    | some (.inl flag) => readLetters beforeCommand (← given.raise beforeCommand flag) rest
    | some (.inr setting) =>
      if rest.isEmpty then return (given, some setting)
      else return (← given.set (attachedValue rest) setting, none)
    | none => throw .misuse

/-- Whether an argument may be the value of the option before it. -/
def isValue (argument : String) : Bool :=
  argument == "-" || argument.toList.head? != some '-'

/-- What an argument is. -/
inductive Argument where
  /-- A name or a file. -/
  | plain
  /-- The mark after which there are no more options. -/
  | endOfOptions
  | long (text : List Char)
  | letters (text : List Char)

/-- What an argument is, by its first characters. -/
def Argument.of (argument : String) : Argument :=
  match argument.toList with
  | ['-', '-'] => .endOfOptions
  | '-' :: '-' :: text => .long text
  | ['-'] => .plain
  | '-' :: text => .letters text
  | _ => .plain

/-- The options at the start of a list of arguments, up to the first one that is no option, and that one
and what follows it. -/
def readOptions (beforeCommand : Bool) (given : Given) :
    List String → Except Stop (Given × List String)
  | [] => .ok (given, [])
  | argument :: rest => do
    let step? : Option Step :=
      match Argument.of argument with
      | .plain => none
      | .endOfOptions => none
      | .long text => some (readLong beforeCommand given text)
      | .letters text => some (readLetters beforeCommand given text)
    match step? with
    | none => return (given, argument :: rest)
    | some step =>
      match ← step with
      | (given, none) => readOptions beforeCommand given rest
      | (given, some setting) =>
        match rest with
        | [] => throw .misuse
        | value :: rest =>
          if isValue value then readOptions beforeCommand (← given.set value setting) rest
          else throw .misuse

/-- The file of a command, of which there is one, from the arguments that are left when no more options
can follow. -/
def onlyFile (arguments : List String) : Except Stop String :=
  match arguments with
  | [file] => if file = "" then .error .misuse else .ok file
  | _ => .error .misuse

/-- The options after a command, and its file. The options may stand on both sides of the file. -/
def readCommand (arguments : List String) : Except Stop (Given × String) := do
  let (before, rest) ← readOptions false .nothing arguments
  match rest with
  | [] => throw .misuse
  | "--" :: files => return (before, ← onlyFile files)
  | file :: rest =>
    if file = "" then throw .misuse
    let (given, rest) ← readOptions false before rest
    if rest.isEmpty || rest = ["--"] then return (given, file) else throw .misuse

/-- The subject of a command. -/
def subject? (command : String) : Option Subject :=
  match command with
  | "compile" => some .compilation
  | "fields" => some .fieldUsage
  | _ => none

/-- The options of both sides together with the environment's configuration file, which counts when none
is given. It cannot be empty, unless it is given on both sides. -/
def combine (subject : Subject) (file : String) (environment? : Option String)
    (before after : Given) : Except Stop Options := do
  if environment? = some "" && !(before.config?.isSome && after.config?.isSome) then throw .misuse
  return {
    subject, file
    config? := after.config?.or (before.config?.or environment?)
    skipField? := after.skipField?.or before.skipField?
    noSkipField := after.noSkipField || before.noSkipField
    format := (after.format?.or before.format?).getD .text
    compact := after.compact || before.compact
    output? := after.output?.or before.output?
    color := (after.color?.or before.color?).getD .auto
    verbosity := if after.verbosity = 0 then before.verbosity else after.verbosity
    quiet := after.quiet || before.quiet }

/-- Help on a command or on the program. -/
def readHelp (arguments : List String) : Stop :=
  match arguments with
  | [] => .help
  | [command] => if (subject? command).isSome || command == "help" then .help else .misuse
  | _ => .misuse

/-- The options of a list of arguments, given the environment's configuration file. -/
def parse (environment? : Option String) (arguments : List String) : Except Stop Options := do
  let (before, rest) ← readOptions true .nothing arguments
  match rest with
  | [] => throw .misuse
  | command :: rest =>
    match subject? command with
    | some subject =>
      let (after, file) ← readCommand rest
      combine subject file environment? before after
    | none => throw (if command = "help" then readHelp rest else .misuse)

end CommandLine

end FilterQuery
