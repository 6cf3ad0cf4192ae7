import ScoringRules.Rule.Basic
import ScoringRules.Rule.Stream

/-!
Reading rules from tokens by recursive descent, with one token of lookahead. Depth of nesting
is bounded by the number of tokens, which the recursion counts down.
-/

namespace ScoringRules

namespace Parser

/-- A name in parentheses; keywords serve as names too. -/
def name : Parser String := do
  symbol .leftParen
  match (← peek).name? with
  | some name =>
    advance
    symbol .rightParen
    return name
  | none => fail .name

def scoreName : Parser String := do
  keyword .score
  name

def value : Parser Value := do
  let stream ← get
  match stream.kind with
  | .keyword .var =>
    advance
    return .var (← name)
  | .keyword .score => return .score (← scoreName)
  | .string text =>
    advance
    return .string text
  | .integer value =>
    advance
    return .int value
  | .regex pattern =>
    advance
    return .regex pattern stream.location
  | _ => fail .value

def comparison : Parser Comparison := do
  match ← peek with
  | .symbol .equal =>
    advance
    return .equal
  | .symbol .notEqual =>
    advance
    return .notEqual
  | .symbol .greater =>
    advance
    return .greater
  | .symbol .greaterEqual =>
    advance
    return .greaterOrEqual
  | .symbol .less =>
    advance
    return .less
  | .symbol .lessEqual =>
    advance
    return .lessOrEqual
  | .keyword .contains =>
    advance
    return .contains
  | .keyword .matches_ =>
    advance
    return .matches_
  | .keyword .does =>
    advance
    keyword .not
    match ← peek with
    | .keyword .contain =>
      advance
      return .doesNotContain
    | .keyword .match_ =>
      advance
      return .doesNotMatch
    | _ => fail .containOrMatch
  | _ => fail .comparison

def members : Parser (List Value) := do
  symbol .leftBracket
  let values ← sepBy1 (.symbol .comma) value
  symbol .rightBracket
  return values

def comparisonOrList : Parser Condition := do
  let left ← value
  match ← peek with
  | .keyword .not =>
    advance
    keyword .in_
    return .list left true (← members)
  | .keyword .in_ =>
    advance
    return .list left false (← members)
  | _ =>
    let comparison ← comparison
    return .scalar left comparison (← value)

/-- `and` binds tighter than `or`. -/
def expressionOf (condition : Parser Condition) : Parser Expression :=
  sepBy1 (.keyword .or) (sepBy1 (.keyword .and) condition)

/-- A condition with at most `depth` parentheses around one another. -/
def condition : Nat → Parser Condition
  | 0 => comparisonOrList
  | depth + 1 => do
    if (← peek) = .symbol .leftParen then
      advance
      let clauses ← expressionOf (condition depth)
      symbol .rightParen
      return .nested clauses
    else comparisonOrList

def expression : Parser Expression := do
  expressionOf (condition (← get).bound)

def scoreOp : Parser ScoreOp := do
  match ← peek with
  | .symbol .assign =>
    advance
    return .set
  | .symbol .addAssign =>
    advance
    return .add
  | .symbol .subAssign =>
    advance
    return .sub
  | _ => fail .assignment

def amount : Parser Amount := do
  match ← peek with
  | .integer value =>
    advance
    return .int value
  | .keyword .score => return .score (← scoreName)
  | _ => fail .amount

def scoreChange : Parser Statement := do
  let score ← scoreName
  let op ← scoreOp
  return .change score op (← amount)

/-- Statements up to `done` or the end of input, at most `limit` of them. -/
def consequences (statement : Parser Statement) : Nat → Parser (List Statement)
  | 0 => pure []
  | limit + 1 => do
    let kind ← peek
    if kind = .keyword .done ∨ kind = .endOfInput then return []
    let first ← statement
    let rest ← consequences statement limit
    return first :: rest

def statement : Nat → Parser Statement
  | 0 => fail .statement
  | depth + 1 => do
    match ← peek with
    | .keyword .when =>
      advance
      let condition ← expression
      keyword .then_
      let statements ← consequences (statement depth) (← get).bound
      keyword .done
      return .rule condition statements
    | .keyword .score => scoreChange
    | .keyword .exit =>
      advance
      return .exit
    | _ => fail .statement

def program : Nat → Parser (List Statement)
  | 0 => pure []
  | limit + 1 => do
    if (← peek) = .endOfInput then return []
    let first ← statement (← get).bound
    let rest ← program limit
    return first :: rest

end Parser

namespace TokenStream

/-- The statements up to the end of input, or what stands in their way, and where the parser
stopped. -/
def parse (stream : TokenStream) : Except CompileError (List Statement) × TokenStream :=
  match Parser.program stream.bound stream with
  | .ok (statements, rest) => (.ok statements, rest)
  | .error failure => (.error failure.error, failure.stopped)

end TokenStream

end ScoringRules
