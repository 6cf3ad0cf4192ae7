import ScoringRules.Source.Location

/-!
Tokens of the rule language: literals, names, keywords and symbols, each with the place where
it starts.
-/

namespace ScoringRules

inductive Keyword where
  | when | then_ | done | or | and | not | in_ | contains | matches_ | does | contain | match_
  | exit | var | score
  deriving DecidableEq, Repr

namespace Keyword

def text : Keyword → String
  | when => "when"
  | then_ => "then"
  | done => "done"
  | or => "or"
  | and => "and"
  | not => "not"
  | in_ => "in"
  | contains => "contains"
  | matches_ => "matches"
  | does => "does"
  | contain => "contain"
  | match_ => "match"
  | exit => "exit"
  | var => "var"
  | score => "score"

def all : List Keyword :=
  [when, then_, done, or, and, not, in_, contains, matches_, does, contain, match_, exit, var, score]

def ofText? (word : String) : Option Keyword :=
  all.find? fun keyword => keyword.text == word

end Keyword

inductive Symbol where
  | leftParen | rightParen | leftBracket | rightBracket | comma
  | assign | addAssign | subAssign
  | equal | notEqual | less | lessEqual | greater | greaterEqual
  deriving DecidableEq, Repr

namespace Symbol

def text : Symbol → String
  | leftParen => "("
  | rightParen => ")"
  | leftBracket => "["
  | rightBracket => "]"
  | comma => ","
  | assign => "="
  | addAssign => "+="
  | subAssign => "-="
  | equal => "=="
  | notEqual => "!="
  | less => "<"
  | lessEqual => "<="
  | greater => ">"
  | greaterEqual => ">="

end Symbol

inductive TokenKind where
  | string (text : String)
  | integer (value : Int64)
  | regex (pattern : String)
  | identifier (name : String)
  | keyword (word : Keyword)
  | symbol (mark : Symbol)
  | endOfInput
  deriving DecidableEq, Repr

namespace TokenKind

def describe : TokenKind → String
  | string text => "string \"" ++ text ++ "\""
  | integer value => "integer " ++ toString value.toInt
  | regex pattern => "regex /" ++ pattern ++ "/"
  | identifier name => "identifier '" ++ name ++ "'"
  | keyword word => "'" ++ word.text ++ "'"
  | symbol mark => "'" ++ mark.text ++ "'"
  | endOfInput => "end of input"

/-- A word in a place where a name is wanted: keywords serve as names too. -/
def name? : TokenKind → Option String
  | identifier name => some name
  | keyword word => some word.text
  | _ => none

end TokenKind

structure Token where
  kind : TokenKind
  location : Location
  deriving DecidableEq, Repr

end ScoringRules
