import Mathlib.Computability.Language
import ScoringRules.Rule.Basic
import ScoringRules.Token.Basic

/-!
The grammar of rules: for each node, the phrases that stand for it. A phrase is a list of tokens
in front of the end of input; places of tokens are free, except that a pattern keeps the place of
its token.
-/

namespace ScoringRules

namespace Grammar

/-- One token of this kind, anywhere. -/
def token (kind : TokenKind) : Language Token :=
  {phrase | ∃ location, phrase = [⟨kind, location⟩]}

def exactly (token : Token) : Language Token :=
  {phrase | phrase = [token]}

def keyword (word : Keyword) : Language Token :=
  token (.keyword word)

def symbol (mark : Symbol) : Language Token :=
  token (.symbol mark)

/-- A word for a name: an identifier, or the keyword with this spelling. -/
def word (name : String) : Language Token :=
  {phrase | ∃ location, phrase = [⟨.identifier name, location⟩] ∨
    ∃ keyword : Keyword, keyword.text = name ∧ phrase = [⟨.keyword keyword, location⟩]}

theorem mem_token {kind : TokenKind} {next : Token} : [next] ∈ token kind ↔ next.kind = kind := by
  constructor
  · rintro ⟨location, same⟩
    rw [List.singleton_inj.mp same]
  · rintro rfl
    exact ⟨next.location, rfl⟩

theorem mem_exactly {next other : Token} : [next] ∈ exactly other ↔ next = other :=
  List.singleton_inj

theorem mem_word {name : String} {next : Token} :
    [next] ∈ word name ↔ next.kind.name? = some name := by
  constructor
  · rintro ⟨location, same | ⟨keyword, rfl, same⟩⟩
    · rw [List.singleton_inj.mp same, TokenKind.name?]
    · rw [List.singleton_inj.mp same, TokenKind.name?]
  · obtain ⟨kind, location⟩ := next
    intro named
    cases kind with
    | identifier other =>
      obtain rfl := Option.some.inj named
      exact ⟨location, .inl rfl⟩
    | keyword keyword => exact ⟨location, .inr ⟨keyword, Option.some.inj named, rfl⟩⟩
    | _ => cases named

def name (name : String) : Language Token :=
  symbol .leftParen * word name * symbol .rightParen

def scoreName (score : String) : Language Token :=
  keyword .score * name score

def joined (separator : Language Token) : List (Language Token) → Language Token
  | [] => 0
  | first :: rest => first * (rest.map (separator * ·)).prod

end Grammar

open Grammar

def Value.phrases : Value → Language Token
  | var name => keyword .var * Grammar.name name
  | string text => token (.string text)
  | int value => token (.integer value)
  | score name => scoreName name
  | regex pattern location => exactly ⟨.regex pattern, location⟩

def Comparison.phrases : Comparison → Language Token
  | equal => symbol .equal
  | notEqual => symbol .notEqual
  | greater => symbol .greater
  | greaterOrEqual => symbol .greaterEqual
  | less => symbol .less
  | lessOrEqual => symbol .lessEqual
  | contains => keyword .contains
  | doesNotContain => keyword .does * keyword .not * keyword .contain
  | matches_ => keyword .matches_
  | doesNotMatch => keyword .does * keyword .not * keyword .match_

mutual

def Condition.phrases : Condition → Language Token
  | .scalar left comparison right => left.phrases * comparison.phrases * right.phrases
  | .list left negated members =>
    left.phrases * (if negated then keyword .not else 1) * keyword .in_ * symbol .leftBracket *
      joined (symbol .comma) (members.map Value.phrases) * symbol .rightBracket
  | .nested clauses =>
    symbol .leftParen * joined (keyword .or) (clausePhrases clauses) * symbol .rightParen

def clausePhrases : List (List Condition) → List (Language Token)
  | [] => []
  | first :: rest => joined (keyword .and) (conditionPhrases first) :: clausePhrases rest

def conditionPhrases : List Condition → List (Language Token)
  | [] => []
  | first :: rest => first.phrases :: conditionPhrases rest

end

namespace Grammar

def clause (clause : Clause) : Language Token :=
  joined (keyword .and) (clause.map Condition.phrases)

def expression (expression : Expression) : Language Token :=
  joined (keyword .or) (expression.map clause)

theorem conditionPhrases_eq_map (conditions : List Condition) :
    conditionPhrases conditions = conditions.map Condition.phrases := by
  induction conditions with
  | nil => simp [conditionPhrases]
  | cons first rest ih => simp [conditionPhrases, ih]

theorem clausePhrases_eq_map (clauses : List (List Condition)) :
    clausePhrases clauses = clauses.map clause := by
  induction clauses with
  | nil => simp [clausePhrases]
  | cons first rest ih => simp [clausePhrases, ih, clause, conditionPhrases_eq_map]

theorem phrases_nested (clauses : Expression) : (Condition.nested clauses).phrases =
    symbol .leftParen * expression clauses * symbol .rightParen := by
  rw [Condition.phrases, clausePhrases_eq_map, expression]

end Grammar

def ScoreOp.phrases : ScoreOp → Language Token
  | set => symbol .assign
  | add => symbol .addAssign
  | sub => symbol .subAssign

def Amount.phrases : Amount → Language Token
  | int value => token (.integer value)
  | score name => scoreName name

mutual

def Statement.phrases : Statement → Language Token
  | .rule condition consequences =>
    keyword .when * expression condition * keyword .then_ *
      (statementPhrases consequences).prod * keyword .done
  | .change score op amount => scoreName score * op.phrases * amount.phrases
  | .exit => keyword .exit

def statementPhrases : List Statement → List (Language Token)
  | [] => []
  | first :: rest => first.phrases :: statementPhrases rest

end

namespace Grammar

def statements (statements : List Statement) : Language Token :=
  (statements.map Statement.phrases).prod

theorem statementPhrases_eq_map (statements : List Statement) :
    statementPhrases statements = statements.map Statement.phrases := by
  induction statements with
  | nil => simp [statementPhrases]
  | cons first rest ih => simp [statementPhrases, ih]

theorem phrases_rule (condition : Expression) (consequences : List Statement) :
    (Statement.rule condition consequences).phrases =
      keyword .when * expression condition * keyword .then_ * statements consequences *
        keyword .done := by
  rw [Statement.phrases, statementPhrases_eq_map, statements]

end Grammar

end ScoringRules
