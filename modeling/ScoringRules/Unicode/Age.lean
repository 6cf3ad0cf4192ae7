import ScoringRules.Unicode.AgeTable
import ScoringRules.Unicode.Runs

/-!
The version of the standard in which a character first appeared.
-/

namespace ScoringRules.Unicode

def versions : List String :=
  ["1.1", "2.0", "2.1", "3.0", "3.1", "3.2", "4.0", "4.1", "5.0", "5.1", "5.2", "6.0", "6.1",
    "6.2", "6.3", "7.0", "8.0", "9.0", "10.0", "11.0", "12.0", "12.1", "13.0", "14.0", "15.0",
    "15.1", "16.0"]

/-- For each character the index of its version; that of no version for the others. -/
def ageMap : RunMap Nat :=
  .ofText (fun version => versions.idxOf version) ageRuns

def presentIn (version : Nat) (c : Char) : Bool :=
  (ageMap.get? c).getD versions.length ≤ version

end ScoringRules.Unicode
