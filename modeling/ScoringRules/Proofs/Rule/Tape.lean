import ScoringRules.Rule.Parser

/-!
Reading rules from a list of tokens by an index into it. Nothing keeps the index inside the list:
looking behind the last token is an outcome of its own, and so is a loop or a nesting that goes
further than it was allowed to. The index of every token looked at is left on a trail.
-/

namespace ScoringRules

structure TokenTape where
  tokens : List Token
  /-- The index of the next token. -/
  current : Nat
  /-- The indices of the tokens that have been looked at, the latest first. The index moves on only
  from such a token, so that it has had these values and no others in front of its own. -/
  trail : List Nat
  deriving DecidableEq, Repr

namespace TokenTape

/-- A list whose last token is not the end of input gets one, at the place of that token. -/
def ofTokens (tokens : List Token) : TokenTape where
  tokens :=
    if tokens.getLast?.map Token.kind = some .endOfInput then tokens
    else tokens ++ [⟨.endOfInput, (tokens.getLast?.map Token.location).getD .nowhere⟩]
  current := 0
  trail := []

def finish (tape : TokenTape) : Nat :=
  tape.tokens.findIdx fun token => token.kind == .endOfInput

def looked (tape : TokenTape) : TokenTape :=
  { tape with trail := tape.current :: tape.trail }

def moved (tape : TokenTape) : TokenTape :=
  { tape with current := tape.current + 1 }

/-- The tape stands in front of the tokens of a stream, no further than the first end of input, and
has never gone back. -/
structure Shows (tape : TokenTape) (stream : TokenStream) : Prop where
  ended : tape.tokens[tape.finish]? = some ⟨.endOfInput, stream.finish⟩
  inside : tape.current ≤ tape.finish
  pending : stream.pending = (tape.tokens.take tape.finish).drop tape.current
  descending : (tape.current :: tape.trail).Pairwise (· ≥ ·)

structure Leads (tape next : TokenTape) (stream : TokenStream) : Prop where
  tokens : next.tokens = tape.tokens
  forward : tape.current ≤ next.current
  shows : next.Shows stream

variable {tape next last : TokenTape} {stream rest : TokenStream}

theorem finish_congr (same : next.tokens = tape.tokens) : next.finish = tape.finish := by
  rw [finish, finish, same]

theorem Shows.finish_lt (shows : tape.Shows stream) : tape.finish < tape.tokens.length :=
  (List.getElem?_eq_some_iff.mp shows.ended).1

theorem Shows.length_pending (shows : tape.Shows stream) :
    stream.pending.length = tape.finish - tape.current := by
  have inside := shows.finish_lt
  rw [shows.pending, List.length_drop, List.length_take]
  omega

theorem Shows.length_lt (shows : tape.Shows stream) :
    stream.pending.length < tape.tokens.length := by
  have inside := shows.finish_lt
  rw [shows.length_pending]
  omega

theorem Shows.head?_pending (shows : tape.Shows stream) (more : tape.current < tape.finish) :
    stream.pending.head? = tape.tokens[tape.current]? := by
  rw [shows.pending, List.head?_drop, List.getElem?_take_of_lt more]

theorem Shows.getElem?_current (shows : tape.Shows stream) :
    tape.tokens[tape.current]? = some ⟨stream.kind, stream.location⟩ := by
  rcases Nat.lt_or_eq_of_le shows.inside with more | reached
  · have inside : tape.current < tape.tokens.length := Nat.lt_trans more shows.finish_lt
    have head := shows.head?_pending more
    rw [List.getElem?_eq_getElem inside] at head ⊢
    simp [TokenStream.kind, TokenStream.location, head]
  · have nothing : stream.pending = [] :=
      List.length_eq_zero_iff.mp (by rw [shows.length_pending, reached, Nat.sub_self])
    rw [reached, shows.ended]
    simp [TokenStream.kind, TokenStream.location, nothing]

theorem Shows.current_lt (shows : tape.Shows stream) (real : stream.kind ≠ .endOfInput) :
    tape.current < tape.finish := by
  refine Nat.lt_of_le_of_ne shows.inside fun reached => real ?_
  have next := shows.getElem?_current
  rw [reached, shows.ended, Option.some.injEq, Token.mk.injEq] at next
  exact next.1.symm

theorem Shows.looked (shows : tape.Shows stream) : tape.looked.Shows stream where
  ended := shows.ended
  inside := shows.inside
  pending := shows.pending
  descending := by
    refine List.pairwise_cons.mpr ⟨fun index seen => ?_, shows.descending⟩
    rcases List.mem_cons.mp seen with rfl | seen
    · exact Nat.le_refl _
    · exact (List.pairwise_cons.mp shows.descending).1 index seen

theorem Shows.moved (shows : tape.Shows stream) (real : stream.kind ≠ .endOfInput) :
    tape.moved.Shows stream.tail where
  ended := shows.ended
  inside := shows.current_lt real
  pending := by
    change stream.pending.tail = _
    rw [shows.pending, List.tail_drop]
    rfl
  descending := by
    obtain ⟨latest, earlier⟩ := List.pairwise_cons.mp shows.descending
    exact List.pairwise_cons.mpr ⟨fun index seen => Nat.le_succ_of_le (latest index seen), earlier⟩

theorem Shows.leads (shows : tape.Shows stream) : tape.Leads tape stream :=
  ⟨rfl, Nat.le_refl _, shows⟩

theorem Leads.trans (leads : tape.Leads next stream) (further : next.Leads last rest) :
    tape.Leads last rest :=
  ⟨further.tokens.trans leads.tokens, Nat.le_trans leads.forward further.forward, further.shows⟩

theorem Shows.leads_looked (shows : tape.Shows stream) : tape.Leads tape.looked stream :=
  ⟨rfl, Nat.le_refl _, shows.looked⟩

theorem Shows.leads_advanced (shows : tape.Shows stream) (real : stream.kind ≠ .endOfInput) :
    tape.Leads tape.looked.moved stream.tail :=
  ⟨rfl, Nat.le_succ _, shows.looked.moved real⟩

theorem Leads.length_le (leads : tape.Leads next rest) (shows : tape.Shows stream) :
    rest.pending.length ≤ stream.pending.length := by
  have forward := leads.forward
  rw [leads.shows.length_pending, shows.length_pending, finish_congr leads.tokens]
  omega

theorem Shows.congr (shows : tape.Shows stream) {other : TokenStream}
    (pending : other.pending = stream.pending) (finish : other.finish = stream.finish) :
    tape.Shows other where
  ended := finish ▸ shows.ended
  inside := shows.inside
  pending := pending.trans shows.pending
  descending := shows.descending

theorem takeWhile_tokens_ofTokens (tokens : List Token) :
    (ofTokens tokens).tokens.takeWhile (fun token => token.kind != .endOfInput) =
      (TokenStream.ofTokens tokens).pending := by
  unfold ofTokens TokenStream.ofTokens
  dsimp only
  split
  · rfl
  · rw [List.takeWhile_append, List.takeWhile_cons_of_neg (by simp), List.append_nil,
      ite_eq_right_iff]
    exact fun whole => ((List.takeWhile_prefix _).eq_of_length whole).symm

theorem find?_tokens_ofTokens (tokens : List Token) :
    (ofTokens tokens).tokens.find? (fun token => token.kind == .endOfInput) =
      some ⟨.endOfInput, (TokenStream.ofTokens tokens).finish⟩ := by
  cases found : tokens.find? fun token => token.kind == .endOfInput with
  | some token =>
    have ends : token.kind = .endOfInput := by simpa using List.find?_some found
    have place : (TokenStream.ofTokens tokens).finish = token.location := by
      simp [TokenStream.ofTokens, found]
    have same : some token = some ⟨.endOfInput, token.location⟩ := by rw [← ends]
    rw [place, ← same]
    unfold ofTokens
    dsimp only
    split
    · exact found
    · simp [List.find?_append, found]
  | none =>
    have absent : tokens.getLast?.map Token.kind ≠ some .endOfInput := by
      intro closed
      obtain ⟨last, there, ends⟩ := Option.map_eq_some_iff.mp closed
      have other := List.find?_eq_none.mp found last (List.mem_of_getLast? there)
      simp [ends] at other
    simp [ofTokens, TokenStream.ofTokens, absent, List.find?_append, found]

theorem shows_ofTokens (tokens : List Token) :
    (ofTokens tokens).Shows (TokenStream.ofTokens tokens) where
  ended := by rw [finish, ← List.find?_eq_getElem?_findIdx, find?_tokens_ofTokens]
  inside := Nat.zero_le _
  pending := by
    rw [← takeWhile_tokens_ofTokens, List.takeWhile_eq_take_findIdx_not]
    simp only [bne, Bool.not_not]
    rfl
  descending := List.pairwise_singleton _ _

end TokenTape

inductive Halt where
  /-- The next token cannot continue a program. -/
  | refused (error : CompileError)
  | outOfRange (index : Nat)
  | unfinished
  deriving DecidableEq, Repr

/-- Reads a phrase from a tape. The tape is left where the parser stopped, whatever it gives. -/
abbrev TapeParser := ExceptT Halt (StateM TokenTape)

namespace TapeParser

def peek : TapeParser Token := do
  let tape ← get
  set tape.looked
  tape.tokens[tape.current]?.getDM (throw (.outOfRange tape.current))

def advance : TapeParser Unit := do
  if (← peek).kind ≠ .endOfInput then
    modify TokenTape.moved

def take (a : α) : TapeParser α := do
  advance
  return a

def fail (what : Expectation) : TapeParser α := do
  let token ← peek
  throw (.refused (.expected what token.kind token.location))

/-- Whether a token of this kind comes next; it is taken if so. -/
def accept (kind : TokenKind) : TapeParser Bool := do
  if (← peek).kind = kind then
    advance
    return true
  else return false

def expect (kind : TokenKind) : TapeParser Unit := do
  if (← peek).kind = kind then advance else fail (.token kind)

def keyword (word : Keyword) : TapeParser Unit :=
  expect (.keyword word)

def symbol (mark : Symbol) : TapeParser Unit :=
  expect (.symbol mark)

def separated (separator : TokenKind) (phrase : TapeParser α) : Nat → TapeParser (List α)
  | 0 => throw .unfinished
  | limit + 1 => do
    if ← accept separator then
      let first ← phrase
      let rest ← separated separator phrase limit
      return first :: rest
    else return []

def sepBy1 (separator : TokenKind) (phrase : TapeParser α) : TapeParser (List α) := do
  let first ← phrase
  let rest ← separated separator phrase (← get).tokens.length
  return first :: rest

def name : TapeParser String := do
  symbol .leftParen
  match (← peek).kind.name? with
  | some name =>
    advance
    symbol .rightParen
    return name
  | none => fail .name

def scoreName : TapeParser String := do
  keyword .score
  name

def value : TapeParser Value := do
  let token ← peek
  match token.kind with
  | .keyword .var =>
    advance
    return .var (← name)
  | .keyword .score => return .score (← scoreName)
  | .string text => take (.string text)
  | .integer value => take (.int value)
  | .regex pattern => take (.regex pattern token.location)
  | _ => fail .value

def comparison : TapeParser Comparison := do
  match (← peek).kind with
  | .symbol .equal => take .equal
  | .symbol .notEqual => take .notEqual
  | .symbol .greater => take .greater
  | .symbol .greaterEqual => take .greaterOrEqual
  | .symbol .less => take .less
  | .symbol .lessEqual => take .lessOrEqual
  | .keyword .contains => take .contains
  | .keyword .matches_ => take .matches_
  | .keyword .does =>
    advance
    keyword .not
    match (← peek).kind with
    | .keyword .contain => take .doesNotContain
    | .keyword .match_ => take .doesNotMatch
    | _ => fail .containOrMatch
  | _ => fail .comparison

def members : TapeParser (List Value) := do
  symbol .leftBracket
  let values ← sepBy1 (.symbol .comma) value
  symbol .rightBracket
  return values

def comparisonOrList : TapeParser Condition := do
  let left ← value
  if ← accept (.keyword .not) then
    keyword .in_
    return .list left true (← members)
  if ← accept (.keyword .in_) then
    return .list left false (← members)
  let comparison ← comparison
  return .scalar left comparison (← value)

def expressionOf (condition : TapeParser Condition) : TapeParser Expression :=
  sepBy1 (.keyword .or) (sepBy1 (.keyword .and) condition)

/-- A condition with fewer than `depth` parentheses around one another. -/
def condition : Nat → TapeParser Condition
  | 0 => throw .unfinished
  | depth + 1 => do
    if ← accept (.symbol .leftParen) then
      let clauses ← expressionOf (condition depth)
      symbol .rightParen
      return .nested clauses
    comparisonOrList

def expression : TapeParser Expression := do
  expressionOf (condition (← get).tokens.length)

def scoreOp : TapeParser ScoreOp := do
  match (← peek).kind with
  | .symbol .assign => take .set
  | .symbol .addAssign => take .add
  | .symbol .subAssign => take .sub
  | _ => fail .assignment

def amount : TapeParser Amount := do
  match (← peek).kind with
  | .integer value => take (.int value)
  | .keyword .score => return .score (← scoreName)
  | _ => fail .amount

def scoreChange : TapeParser Statement := do
  let score ← scoreName
  let op ← scoreOp
  return .change score op (← amount)

def statements (stops : TokenKind → Prop) [DecidablePred stops] (statement : TapeParser Statement) :
    Nat → TapeParser (List Statement)
  | 0 => throw .unfinished
  | limit + 1 => do
    if stops (← peek).kind then return []
    let first ← statement
    let rest ← statements stops statement limit
    return first :: rest

def rule (statement : TapeParser Statement) : TapeParser Statement := do
  keyword .when
  let condition ← expression
  keyword .then_
  let consequences ← statements (fun kind => kind = .keyword .done ∨ kind = .endOfInput) statement
    (← get).tokens.length
  keyword .done
  return .rule condition consequences

def statement : Nat → TapeParser Statement
  | 0 => throw .unfinished
  | depth + 1 => do
    match (← peek).kind with
    | .keyword .when => rule (statement depth)
    | .keyword .score => scoreChange
    | .keyword .exit => take .exit
    | _ => fail .statement

def program : TapeParser (List Statement) := do
  let limit := (← get).tokens.length
  statements (· = .endOfInput) (statement limit) limit

end TapeParser

namespace TokenTape

def parse (tape : TokenTape) : Except Halt (List Statement) × TokenTape :=
  TapeParser.program tape

end TokenTape

end ScoringRules
