import ScoringRules.CompileError

/-!
The tokens that a parser has still to read. What stands behind the first end of input is never
seen, so a stream holds the tokens before it and its place.
-/

namespace ScoringRules

structure TokenStream where
  pending : List Token
  finish : Location
  /-- No fewer than the tokens before the end: no phrase is repeated or nested more often. -/
  bound : Nat
  length_le_bound : pending.length ≤ bound
  deriving DecidableEq, Repr

namespace TokenStream

/-- The stream of a list of tokens. A list whose last token is not the end of input ends where
that token starts. -/
def ofTokens (tokens : List Token) : TokenStream where
  pending := tokens.takeWhile fun token => token.kind != .endOfInput
  finish :=
    match tokens.find? fun token => token.kind == .endOfInput with
    | some token => token.location
    | none => (tokens.getLast?.map Token.location).getD .nowhere
  bound := tokens.length
  length_le_bound := (List.takeWhile_prefix _).length_le

def kind (stream : TokenStream) : TokenKind :=
  (stream.pending.head?.map Token.kind).getD .endOfInput

def location (stream : TokenStream) : Location :=
  (stream.pending.head?.map Token.location).getD stream.finish

def tail (stream : TokenStream) : TokenStream where
  pending := stream.pending.tail
  finish := stream.finish
  bound := stream.bound
  length_le_bound := by
    have := stream.length_le_bound
    rw [List.length_tail]
    omega

end TokenStream

structure ParseFailure where
  what : Expectation
  stopped : TokenStream
  deriving DecidableEq, Repr

def ParseFailure.error (failure : ParseFailure) : CompileError :=
  .expected failure.what failure.stopped.kind failure.stopped.location

abbrev Parser := StateT TokenStream (Except ParseFailure)

namespace Parser

def fail (what : Expectation) : Parser α :=
  fun stream => .error ⟨what, stream⟩

def peek : Parser TokenKind :=
  fun stream => .ok (stream.kind, stream)

def advance : Parser Unit :=
  fun stream => .ok ((), stream.tail)

def expect (kind : TokenKind) : Parser Unit := do
  if (← peek) = kind then advance else fail (.token kind)

def keyword (word : Keyword) : Parser Unit :=
  expect (.keyword word)

def symbol (mark : Symbol) : Parser Unit :=
  expect (.symbol mark)

def separated (separator : TokenKind) (phrase : Parser α) : Nat → Parser (List α)
  | 0 => pure []
  | limit + 1 => do
    if (← peek) = separator then
      advance
      let first ← phrase
      let rest ← separated separator phrase limit
      return first :: rest
    else return []

def sepBy1 (separator : TokenKind) (phrase : Parser α) : Parser (List α) := do
  let first ← phrase
  let rest ← separated separator phrase (← get).bound
  return first :: rest

end Parser

end ScoringRules
