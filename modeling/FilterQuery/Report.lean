import FilterQuery.Compilation
import FilterQuery.Json.Writer
import FilterQuery.Report.Style
import FilterQuery.Report.Table

/-!
# Reports on a compilation

A compilation is reported as a filter with its fields, or as the use of its fields alone; either report is
a JSON document or a text for a terminal.
-/

namespace FilterQuery

/-- What a report is about. -/
inductive Subject where
  /-- The filter and the fields. -/
  | compilation
  /-- The use of the fields. -/
  | fieldUsage
deriving DecidableEq

namespace Report

/-- The filter and the fields as a document. -/
def compilationDocument (c : Compilation) : Json :=
  .object [("filter", c.filter.toJson), ("filtered_fields", .ofStrings c.fields)]

/-- An entry of the use of the fields as a document. -/
def usageEntry (usage : FieldUsage) : Json :=
  .object [("count", .ofNat usage.count), ("field", .string usage.field)]

/-- The use of the fields as a document. -/
def usageDocument (c : Compilation) : Json :=
  .object
    [("fields", .array (c.usage.map usageEntry)),
      ("filtered_fields", .ofStrings c.fields),
      ("skip_field_referenced", .bool c.skipApplied),
      ("skipped_fields", .ofStrings (distinct c.skipped))]

/-- The document of a report. -/
def document : Subject → Compilation → Json
  | .compilation => compilationDocument
  | .fieldUsage => usageDocument

/-- A document in one line or with one item a line. -/
def render (compact : Bool) (document : Json) : String :=
  if compact then document.compact else document.pretty

/-- A report as JSON. -/
def json (subject : Subject) (compact : Bool) (c : Compilation) : String :=
  render compact (document subject c)

/-- The table of the use of the fields. -/
def usageTable (c : Compilation) : Table where
  header := ["Field", "References", "Skipped"]
  rows := c.usage.map fun usage =>
    [usage.field, String.ofList (Decimal.digitsOf usage.count),
      if c.skipped.contains usage.field then "yes" else ""]

/-- The notice that comparisons on a field were dropped. -/
def skipNotice (field : String) : String :=
  "Comparisons on '" ++ field ++ "' were compiled to match_all."

/-- The use of the fields as a text. -/
def usageText (color : Bool) (c : Compilation) : String :=
  let heading := Style.bold.apply color "Referenced fields" ++ "\n"
  let body := if c.usage.isEmpty then "No fields referenced.\n" else (usageTable c).text ++ "\n"
  let notices := (distinct c.skipped).map fun field =>
    Style.cyan.apply color (skipNotice field) ++ "\n"
  heading ++ body ++ String.join notices

/-- The filter and the fields as a text. -/
def compilationText (color : Bool) (c : Compilation) : String :=
  let heading := Style.bold.apply color "Filter" ++ "\n"
  let filter := c.filter.toJson.pretty ++ "\n\n"
  let notice :=
    if c.filter.isMatchAll then
      Style.yellow.apply color "Filter matches every document." ++ "\n\n"
    else ""
  heading ++ filter ++ notice ++ usageText color c

/-- A report as a text. -/
def text : Subject → Bool → Compilation → String
  | .compilation => compilationText
  | .fieldUsage => usageText

end Report

end FilterQuery
