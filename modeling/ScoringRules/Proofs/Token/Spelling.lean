import Mathlib.Data.Nat.Digits.Defs
import ScoringRules.Token.Lexer

/-!
The lexical grammar: which texts spell a token, what may stand between tokens, and which tokens
run together when nothing stands between them.
-/

namespace ScoringRules

/-- What stands between the quotes of a string, and the text that it is. -/
inductive StringBody : (text spelled : List Char) → Prop where
  | nil : StringBody [] []
  | plain {text spelled : List Char} (c : Char) (delimits : c ≠ '"') (escapes : c ≠ '\\') :
      StringBody text spelled → StringBody (c :: text) (c :: spelled)
  | lineFeed {text spelled : List Char} :
      StringBody text spelled → StringBody ('\n' :: text) ('\\' :: 'n' :: spelled)
  | tab {text spelled : List Char} :
      StringBody text spelled → StringBody ('\t' :: text) ('\\' :: 't' :: spelled)
  | carriageReturn {text spelled : List Char} :
      StringBody text spelled → StringBody ('\r' :: text) ('\\' :: 'r' :: spelled)
  | escaped {text spelled : List Char} (c : Char) (other : c ≠ 'n' ∧ c ≠ 't' ∧ c ≠ 'r') :
      StringBody text spelled → StringBody (c :: text) ('\\' :: c :: spelled)

/-- What stands between the slashes of a regex literal, and the pattern that it is. -/
inductive RegexBody : (pattern spelled : List Char) → Prop where
  | nil : RegexBody [] []
  | plain {pattern spelled : List Char} (c : Char) (delimits : c ≠ '/') (escapes : c ≠ '\\') :
      RegexBody pattern spelled → RegexBody (c :: pattern) (c :: spelled)
  | slash {pattern spelled : List Char} :
      RegexBody pattern spelled → RegexBody ('/' :: pattern) ('\\' :: '/' :: spelled)
  | escaped {pattern spelled : List Char} (c : Char) (other : c ≠ '/') :
      RegexBody pattern spelled → RegexBody ('\\' :: c :: pattern) ('\\' :: c :: spelled)

def IsName : List Char → Prop
  | [] => False
  | first :: rest => isNameStart first = true ∧ ∀ c ∈ rest, isNameChar c = true

def IsDigits (digits : List Char) : Prop :=
  digits ≠ [] ∧ ∀ c ∈ digits, c.isDigit = true

def numberOf (digits : List Char) : Nat :=
  Nat.ofDigits 10 (digits.reverse.map fun c => c.toNat - '0'.toNat)

/-- A text spells an integer if the number it stands for is this 64-bit integer. -/
def SpellsInteger (value : Int64) (text : List Char) : Prop :=
  ∃ digits, IsDigits digits ∧
    (text = digits ∧ value.toInt = numberOf digits ∨
      text = '-' :: digits ∧ value.toInt = -numberOf digits)

namespace TokenKind

def Spells (text : List Char) : TokenKind → Prop
  | keyword word => text = word.text.toList
  | symbol mark => text = mark.text.toList
  | identifier name => text = name.toList ∧ IsName text ∧ ∀ word : Keyword, word.text ≠ name
  | integer value => SpellsInteger value text
  | string content => ∃ spelled, StringBody content.toList spelled ∧ text = '"' :: spelled ++ ['"']
  | regex pattern => ∃ spelled, RegexBody pattern.toList spelled ∧ text = '/' :: spelled ++ ['/']
  | endOfInput => False

def isWord : TokenKind → Bool
  | identifier _ | keyword _ => true
  | _ => false

/-- A token runs together with the one behind it, which has this spelling, when nothing stands
between them. -/
inductive Merges : (first second : TokenKind) → (text : List Char) → Prop where
  | words {first second : TokenKind} {text : List Char} (before : first.isWord = true)
      (behind : second.isWord = true) : Merges first second text
  | wordNumber {first : TokenKind} {value : Int64} {text : List Char}
      (before : first.isWord = true) (unsigned : text.head? ≠ some '-') :
      Merges first (integer value) text
  | numbers {first second : Int64} {text : List Char} (unsigned : text.head? ≠ some '-') :
      Merges (integer first) (integer second) text
  | equals {first second : Symbol} {text : List Char}
      (before : first = .assign ∨ first = .less ∨ first = .greater)
      (behind : second = .assign ∨ second = .equal) : Merges (symbol first) (symbol second) text

end TokenKind

/-- White space and comments in front of what follows: a comment goes on to the end of its line,
or to the end of the text. -/
inductive Gap : (gap behind : List Char) → Prop where
  | nil {behind : List Char} : Gap [] behind
  | blank {gap behind : List Char} (c : Char) (white : isBlank c = true) :
      Gap gap behind → Gap (c :: gap) behind
  | comment {gap behind : List Char} (text : List Char) (within : '\n' ∉ text)
      (ends : gap ++ behind = [] ∨ (gap ++ behind).head? = some '\n') :
      Gap gap behind → Gap ('#' :: text ++ gap) behind

structure Piece where
  kind : TokenKind
  text : List Char
  gap : List Char

/-- A text is cut into pieces, none of which runs together with the next one. -/
inductive Cut : (source : List Char) → List Piece → Prop where
  | nil : Cut [] []
  | cons {kind : TokenKind} {text gap rest : List Char} {pieces : List Piece}
      (spelled : kind.Spells text) (between : Gap gap rest)
      (apart : gap = [] → ∀ next ∈ pieces.head?, ¬ kind.Merges next.kind next.text) :
      Cut rest pieces → Cut (text ++ (gap ++ rest)) (⟨kind, text, gap⟩ :: pieces)

/-- A text is a gap and then pieces of these kinds. -/
def IsCut (source : List Char) (kinds : List TokenKind) : Prop :=
  ∃ lead rest pieces, source = lead ++ rest ∧ Gap lead rest ∧ Cut rest pieces ∧
    pieces.map Piece.kind = kinds

end ScoringRules
