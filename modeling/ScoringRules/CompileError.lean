import ScoringRules.Token.Basic

/-!
Reasons why a source text is not a program, and their wording.
-/

namespace ScoringRules

inductive LexFault where
  | unexpectedCharacter (c : Char)
  | unterminatedString
  | unterminatedRegex
  | invalidNumber (digits : String)
  deriving DecidableEq, Repr

/-- What would have continued a program. -/
inductive Expectation where
  | statement | comparison | containOrMatch | value | assignment | amount | name
  | token (kind : TokenKind)
  deriving DecidableEq, Repr

namespace Expectation

def describe : Expectation → String
  | statement => "'when', 'score' or 'exit'"
  | comparison => "comparison operator"
  | containOrMatch => "'contain' or 'match'"
  | value => "value"
  | assignment => "'=', '+=' or '-='"
  | amount => "integer or score"
  | name => "name"
  | token kind => kind.describe

end Expectation

inductive NodeKind where
  | expression | clause | list
  deriving DecidableEq, Repr

namespace NodeKind

def describeEmpty : NodeKind → String
  | expression => "expression without clauses"
  | clause => "clause without operands"
  | list => "list condition without values"

end NodeKind

inductive CompileError where
  | lexical (fault : LexFault) (location : Location)
  | expected (what : Expectation) (found : TokenKind) (location : Location)
  | emptyNode (kind : NodeKind)
  | invalidRegex (pattern : String) (location : Location)
  | unpatched (index : Nat)
  | unreadable (reason : String)
  deriving DecidableEq, Repr

namespace CompileError

def isGeneration : CompileError → Bool
  | emptyNode _ | invalidRegex _ _ | unpatched _ => true
  | _ => false

def location? : CompileError → Option Location
  | lexical _ location | expected _ _ location | invalidRegex _ location => some location
  | _ => none

/-- The wording; that of a rejected pattern leaves the reason open. -/
def message : CompileError → String
  | lexical (.unexpectedCharacter c) location =>
    "Unexpected character '" ++ String.singleton c ++ "' at " ++ location.text
  | lexical .unterminatedString location => "Unterminated string starting at " ++ location.text
  | lexical .unterminatedRegex location =>
    "Unterminated regex literal starting at " ++ location.text
  | lexical (.invalidNumber digits) location =>
    "Invalid integer literal '" ++ digits ++ "' at " ++ location.text
  | expected what found location =>
    "Expected " ++ what.describe ++ " but found " ++ found.describe ++ " at " ++ location.text
  | emptyNode kind => "Generation error: could not resolve " ++ kind.describeEmpty
  | invalidRegex pattern location =>
    "Generation error: regex /" ++ pattern ++ "/ at " ++ location.text ++ " failed to compile: "
  | unpatched index =>
    "Generation error: reserved instruction " ++ toString index ++ " was never patched"
  | unreadable reason => "IO error: " ++ reason

end CompileError

end ScoringRules
