import ScoringRules.Unicode.Runs
import ScoringRules.Unicode.ScriptTable

/-!
Scripts of characters. A script is known by its four-letter code.
-/

namespace ScoringRules.Unicode

def scripts : List (String × List String) :=
  (words scriptNames).filterMap fun row =>
    match row.splitOn "=" with
    | [] => none
    | code :: others => some (code, others)

def scriptMap : RunMap String :=
  .ofText id scriptRuns

def scriptExtensionMap : RunMap (List String) :=
  .ofText (·.splitOn "+") scriptExtensionRuns

def hasScript (code : String) (c : Char) : Bool :=
  scriptMap.get? c == some code

def usedInScript (code : String) (c : Char) : Bool :=
  ((scriptExtensionMap.get? c).getD []).contains code

end ScoringRules.Unicode
