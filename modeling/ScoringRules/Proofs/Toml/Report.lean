import ScoringRules.Proofs.Toml.Document
import ScoringRules.Report

/-!
Reports read back. Whatever the names, texts and numbers of a report are, its text is a document
with a table of the variables and a table of the scores.
-/

namespace ScoringRules

namespace Report

open Toml

def document (report : Report) : Table :=
  [("input", .table .header (report.input.entries.map fun entry => (entry.1, .string entry.2))),
    ("scores", .table .header (report.scores.entries.map fun entry => (entry.1, .integer entry.2)))]

theorem leads_chars (report : Report) : Place.Leads ⟨[], [], report.chars⟩
    ⟨report.document, ["scores"], []⟩ := by
  let scores := tableForm "scores"
    (report.scores.entries.map fun entry => entryLine entry.1 (integerForm entry.2))
  have first := Place.leads_tableForm writes_stringForm (rfl : Table.find? [] "input" = none)
    (by decide) (List.all_eq_true.mp rfl) [] report.input ('\n' :: scores)
  have second := Place.leads_lineFeed (report.document.take 1) ["input"] scores
  have third := Place.leads_tableForm writes_integerForm
    (rfl : Table.find? (report.document.take 1) "scores" = none) (by decide)
    (List.all_eq_true.mp rfl) ["input"] report.scores []
  rw [List.append_nil] at third
  exact first.trans (second.trans third)

/-- The text of a report is read as its variables and its scores, in their order. -/
theorem document?_toToml (report : Report) :
    document? report.toToml = some report.document := by
  have bracket : report.chars = '[' :: report.chars.tail := rfl
  have read := report.leads_chars.read?_eq
  rw [document?, toToml, String.toList_ofList, bracket]
  exact read

end Report

end ScoringRules
