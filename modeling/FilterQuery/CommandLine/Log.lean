import FilterQuery.Text.Blank
import FilterQuery.Text.Split

/-!
# Logging

The program logs what it does at a level, and shows the messages up to the level that is asked for. The
level comes from the options, and from a list of directives in the environment, each a level, or a name
with a level: a directive with a name counts for the logs whose name starts with it, and the longest such
name decides.
-/

namespace FilterQuery

namespace CommandLine

/-- The importance of a message. -/
inductive Level where
  | error
  | warn
  | info
  | debug
  | trace
deriving DecidableEq

namespace Level

/-- The number of a level; the more important, the lower. -/
def rank : Level → Nat
  | .error => 1
  | .warn => 2
  | .info => 3
  | .debug => 4
  | .trace => 5

/-- The name of a level in a line of the log. -/
def name : Level → String
  | .error => "ERROR"
  | .warn => "WARN"
  | .info => "INFO"
  | .debug => "DEBUG"
  | .trace => "TRACE"

end Level

/-- The rank up to which messages are shown, by the name of a level in any case, or by the word for
nothing. -/
def threshold? (name : String) : Option Nat :=
  let upper := String.ofList (name.toList.map Char.toUpper)
  if upper = "OFF" then some 0
  else ([Level.error, .warn, .info, .debug, .trace].find? (·.name = upper)).map Level.rank

/-- What is shown of the logs whose name starts with a text. -/
structure Directive where
  name : String
  threshold : Nat
deriving DecidableEq

/-- A directive: a level for all logs, a name with a level, or a name alone, which shows everything. What
is no directive gives a warning. -/
def readDirective (text : List Char) : Except String Directive :=
  match Text.splitChars '=' text with
  | [word] =>
    match threshold? (String.ofList word) with
    | some threshold => .ok ⟨"", threshold⟩
    | none => .ok ⟨String.ofList word, Level.trace.rank⟩
  | [name, level] =>
    let level := String.ofList (Text.trim level)
    match threshold? level with
    | some threshold => .ok ⟨String.ofList name, threshold⟩
    | none =>
      if level = "" then .ok ⟨String.ofList name, Level.trace.rank⟩
      else .error ("invalid logging spec '" ++ level ++ "'")
  | _ => .error ("invalid logging spec '" ++ String.ofList text ++ "'")

/-- The directives of a list, and the warnings about what is none. -/
def readDirectives (text : String) : List Directive × List String :=
  let pieces := ((Text.splitChars ',' text.toList).map Text.trim).filter (!·.isEmpty)
  pieces.foldl
    (fun (directives, warnings) piece =>
      match readDirective piece with
      | .ok directive => (directives ++ [directive], warnings)
      | .error warning => (directives, warnings ++ [warning]))
    ([], [])

/-- The name of the program's log. -/
def logName : String := "es_filter"

/-- The threshold of the program's log: that of the longest name that it starts with, of two the later
one. -/
def thresholdOf (default : Nat) (directives : List Directive) : Nat :=
  (directives.foldl
    (fun best directive =>
      if directive.name.toList.isPrefixOf logName.toList ∧
          best.name.length ≤ directive.name.length then directive else best)
    (⟨"", default⟩ : Directive)).threshold

/-- A message of the program. -/
structure Record where
  level : Level
  message : String
deriving DecidableEq

/-- A message with its further lines indented. -/
def indentLines (message : String) : String :=
  String.ofList (message.toList.flatMap fun c => if c = '\n' then "\n    ".toList else [c])

/-- The name of a level, filled up to the width of the longest one. -/
def paddedName (level : Level) : String :=
  level.name ++ String.ofList (List.replicate (5 - level.name.length) ' ')

/-- The line of a message. -/
def Record.line (record : Record) : String :=
  "[" ++ paddedName record.level ++ " " ++ logName ++ "] " ++ indentLines record.message ++ "\n"

/-- The lines of the messages up to a threshold. -/
def logLines (threshold : Nat) (records : List Record) : String :=
  String.join ((records.filter (·.level.rank ≤ threshold)).map Record.line)

end CommandLine

end FilterQuery
