import ScoringRules.Machine.Basic
import ScoringRules.Toml.Printer

/-!
The report on a run: a TOML document with the variables it was given and the scores it gave.
-/

namespace ScoringRules

structure Report where
  input : Variables
  scores : Scores
  deriving DecidableEq

namespace Report

def chars (report : Report) : List Char :=
  Toml.tableForm "input"
      (report.input.entries.map fun entry => Toml.entryLine entry.1 (Toml.stringForm entry.2)) ++
    '\n' :: Toml.tableForm "scores"
      (report.scores.entries.map fun entry => Toml.entryLine entry.1 (Toml.integerForm entry.2))

def toToml (report : Report) : String :=
  String.ofList report.chars

end Report

end ScoringRules
