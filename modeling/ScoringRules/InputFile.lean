import ScoringRules.Event
import ScoringRules.Machine.Basic
import ScoringRules.Text.Lowercase
import ScoringRules.Toml.Document

/-!
Input files: TOML documents with a table of variables for each run, and a flag that asks for
lowercase values. Other entries are ignored.
-/

namespace ScoringRules

structure InputFile where
  lowercase : Bool
  inputs : List Variables
  deriving DecidableEq

namespace Variables

def applyCase (vars : Variables) (lowercase : Bool) : Variables :=
  if lowercase then vars.mapValues ScoringRules.lowercase else vars

def ofTable? (table : Toml.Table) : Option Variables := do
  let entries ← table.mapM fun entry =>
    match entry.2 with
    | .string text => some (entry.1, text)
    | _ => none
  return .ofList entries

/-- The key under which a date counts as a table of one entry. -/
def dateKey : String := "$__toml_private_datetime"

def ofItem? : Toml.Item → Option Variables
  | .table _ entries => ofTable? entries
  | .dateTime text => some (.ofList [(dateKey, text)])
  | _ => none

end Variables

namespace InputFile

def ofTable? (root : Toml.Table) : Option InputFile := do
  let lowercase ←
    match root.find? "lowercase" with
    | none => some false
    | some (.boolean value) => some value
    | some _ => none
  let inputs ←
    match root.find? "input" with
    | none => some []
    | some (.array items) => items.mapM Variables.ofItem?
    | some (.tables elements) => elements.mapM Variables.ofTable?
    | some _ => none
  return ⟨lowercase, inputs⟩

def ofString? (text : String) : Option InputFile := do
  ofTable? (← Toml.document? text)

def loadedEvent (file : InputFile) : Event :=
  .loaded file.inputs.length file.lowercase

def bindings (file : InputFile) : List Variables :=
  file.inputs.map (·.applyCase file.lowercase)

end InputFile

end ScoringRules
