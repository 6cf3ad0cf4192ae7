import ScoringRules.Code.Generator
import ScoringRules.Rule.Parser
import ScoringRules.Token.Lexer

/-!
From source text to code: tokens, rules, instructions. The first stage that fails decides the
error, and the events of the stages before it stay.
-/

namespace ScoringRules

namespace Code

def readTokens (cursor : Cursor) : (Except CompileError (List Token) × List Event) × Cursor :=
  match cursor.tokenize with
  | (.ok tokens, rest) => ((.ok tokens, [.tokenized tokens.length]), rest)
  | (.error error, rest) => ((.error error, []), rest)

def readRules (stream : TokenStream) :
    (Except CompileError (List Statement) × List Event) × TokenStream :=
  match stream.parse with
  | (.ok statements, rest) => ((.ok statements, [.parsed statements.length]), rest)
  | (.error error, rest) => ((.error error, []), rest)

/-- Compiles a source; `accepts` tells which patterns are regular expressions. -/
def tracedCompile (accepts : String → Bool) (source : String) :
    Except CompileError Code × List Event :=
  match (readTokens (.ofString source)).1 with
  | (.error error, events) => (.error error, events)
  | (.ok tokens, lexing) =>
    match (readRules (.ofTokens tokens)).1 with
    | (.error error, events) => (.error error, lexing ++ events)
    | (.ok rules, parsing) =>
      let (result, generation) := generate accepts rules
      (result, lexing ++ parsing ++ generation)

def compile (accepts : String → Bool) (source : String) : Except CompileError Code :=
  (tracedCompile accepts source).1

end Code

end ScoringRules
