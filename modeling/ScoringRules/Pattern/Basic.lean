import ScoringRules.Pattern.Meaning
import ScoringRules.Pattern.Reader

/-!
Regular expressions: which texts are one, and what they match.
-/

namespace ScoringRules.Pattern

def compile? (pattern : String) : Option Matcher := do
  let node ← Node.ofString? pattern
  let (matcher, _) ← node.meaning .start
  return matcher

def accepts (pattern : String) : Bool :=
  (compile? pattern).isSome

/-- Whether some part of a text matches; no text matches a malformed pattern. -/
def isMatch (pattern text : String) : Bool :=
  match compile? pattern with
  | some matcher => matcher.isMatch text
  | none => false

end ScoringRules.Pattern
