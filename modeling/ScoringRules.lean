import ScoringRules.Main
import ScoringRules.Files.Directory
import ScoringRules.Proofs.Code.Correctness
import ScoringRules.Proofs.Rule.Parsing
import ScoringRules.Proofs.Rule.Patterns
import ScoringRules.Proofs.Token.Reading
import ScoringRules.Proofs.Code.Compilation
import ScoringRules.Proofs.Code.Kinds
import ScoringRules.Proofs.Code.Concatenation
import ScoringRules.Proofs.Code.Assignment
import ScoringRules.Proofs.Code.Allocation
import ScoringRules.Proofs.Code.Registers
import ScoringRules.Proofs.Text.PrefixCode
import ScoringRules.Proofs.Text.Quoted
import ScoringRules.Proofs.Code.Text
import ScoringRules.Proofs.Code.Table
import ScoringRules.Proofs.Rule.Names
import ScoringRules.Proofs.Code.Names
import ScoringRules.Proofs.Code.Listing
import ScoringRules.Proofs.Toml.Text
import ScoringRules.Proofs.Toml.Number
import ScoringRules.Proofs.Toml.Document
import ScoringRules.Proofs.Toml.Report
import ScoringRules.Proofs.Code.Defects
import ScoringRules.Proofs.Rule.Refusal
import ScoringRules.Proofs.Token.Places
import ScoringRules.Proofs.Machine.Effect
import ScoringRules.Proofs.Machine.Balance
import ScoringRules.Proofs.Machine.Binding
import ScoringRules.Proofs.Machine.Failure
import ScoringRules.Proofs.Code.Buffer
import ScoringRules.Proofs.Token.Pattern
import ScoringRules.Proofs.Code.Size
import ScoringRules.Proofs.Code.Patterns
import ScoringRules.Proofs.Code.Grid
import ScoringRules.Proofs.Token.Quoted
import ScoringRules.Proofs.Data.OrderedMap
import ScoringRules.Proofs.CommandLine.Settings
import ScoringRules.Proofs.CommandLine.Runs
import ScoringRules.Proofs.Machine.Count
import ScoringRules.Proofs.Rule.Position
import ScoringRules.Proofs.Code.Backpatching
