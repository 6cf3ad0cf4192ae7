import ScoringRules.Proofs.Rule.Refusal
import ScoringRules.Proofs.Rule.Tape

/-!
The index of a parser stays on its tokens. Where a tape shows a stream, each parser for tapes ends
as the parser for streams does, and leaves a tape that shows what the other has left.
-/

namespace ScoringRules

namespace TapeParser

open TokenTape TokenStream

variable {tape : TokenTape} {stream : TokenStream}

theorem bind_apply (first : TapeParser α) (second : α → TapeParser β) :
    (first >>= second) tape =
      match first tape with
      | (.ok a, next) => second a next
      | (.error halt, next) => (.error halt, next) := by
  change (match first tape with
    | (result, next) => (ExceptT.bindCont second result : StateM _ _) next) = _
  rcases first tape with ⟨_ | _, next⟩ <;> rfl

theorem peek_apply (shows : tape.Shows stream) :
    peek tape = (.ok ⟨stream.kind, stream.location⟩, tape.looked) := by
  change (tape.tokens[tape.current]?.getDM (throw (.outOfRange tape.current)) : TapeParser Token)
    tape.looked = _
  rw [shows.getElem?_current]
  rfl

theorem advance_apply (shows : tape.Shows stream) (real : stream.kind ≠ .endOfInput) :
    advance tape = (.ok (), tape.looked.moved) := by
  rw [advance, bind_apply, peek_apply shows]
  dsimp only
  rw [if_pos real]
  rfl

/-- A parser for tapes ends with what a parser for streams has given, further on the same tape. -/
def Follows (parser : TapeParser α) (tape : TokenTape) :
    Except ParseFailure (α × TokenStream) → Prop
  | .ok (a, rest) => ∃ next, parser tape = (.ok a, next) ∧ tape.Leads next rest
  | .error failure => ∃ next, parser tape = (.error (.refused failure.error), next) ∧
      tape.Leads next failure.stopped

def Imitates (parser : TapeParser α) (like : Parser α) (size : Nat) : Prop :=
  ∀ ⦃tape : TokenTape⦄ ⦃stream : TokenStream⦄, tape.Shows stream →
    stream.pending.length ≤ size → Follows parser tape (like stream)

def Shortens (like : Parser α) (size : Nat) : Prop :=
  ∀ ⦃stream rest : TokenStream⦄ ⦃a : α⦄, stream.pending.length ≤ size →
    like stream = .ok (a, rest) → rest.pending.length < stream.pending.length

namespace Follows

variable {rest : TokenStream} {next : TokenTape} {first : TapeParser α}
  {second : α → TapeParser β} {result : Except ParseFailure (β × TokenStream)}

theorem pure (shows : tape.Shows stream) (a : α) :
    Follows (pure a) tape ((pure a : Parser α) stream) :=
  ⟨tape, rfl, shows.leads⟩

theorem fail (shows : tape.Shows stream) (what : Expectation) :
    Follows (fail what) tape (Parser.fail what stream : Except _ (α × _)) := by
  refine ⟨tape.looked, ?_, shows.leads_looked⟩
  rw [TapeParser.fail, bind_apply, peek_apply shows]
  rfl

theorem after {a : α} (gives : first tape = (.ok a, next)) (leads : tape.Leads next rest)
    (late : Follows (second a) next result) : Follows (first >>= second) tape result := by
  have same : (first >>= second) tape = second a next := by rw [bind_apply, gives]
  rcases result with failure | ⟨b, last⟩
  · obtain ⟨ended, stopped, further⟩ := late
    exact ⟨ended, same.trans stopped, leads.trans further⟩
  · obtain ⟨ended, stopped, further⟩ := late
    exact ⟨ended, same.trans stopped, leads.trans further⟩

theorem bind {like : Parser α} {likeNext : α → Parser β}
    (early : Follows first tape (like stream))
    (late : ∀ a next rest, like stream = .ok (a, rest) → tape.Leads next rest →
      Follows (second a) next (likeNext a rest)) :
    Follows (first >>= second) tape ((like >>= likeNext) stream) := by
  change Follows _ tape (like stream >>= fun result => likeNext result.1 result.2)
  rcases read : like stream with failure | ⟨a, rest⟩
  · rw [read] at early
    obtain ⟨next, stopped, leads⟩ := early
    exact ⟨next, by rw [bind_apply, stopped], leads⟩
  · rw [read] at early
    obtain ⟨next, gives, leads⟩ := early
    exact after gives leads (late a next rest read leads)

theorem get {second : TokenTape → TapeParser β} (shows : tape.Shows stream)
    (late : Follows (second tape) tape result) : Follows (get >>= second) tape result :=
  after rfl shows.leads late

theorem peek {second : Token → TapeParser β} (shows : tape.Shows stream)
    (late : ∀ next, tape.Leads next stream →
      Follows (second ⟨stream.kind, stream.location⟩) next result) :
    Follows (peek >>= second) tape result :=
  after (peek_apply shows) shows.leads_looked (late _ shows.leads_looked)

theorem advance {second : Unit → TapeParser β} {like : Unit → Parser β}
    (shows : tape.Shows stream) (real : stream.kind ≠ .endOfInput)
    (late : ∀ next, tape.Leads next stream.tail →
      Follows (second ()) next (like () stream.tail)) :
    Follows (advance >>= second) tape ((Parser.advance >>= like) stream) :=
  have leads := shows.leads_advanced real
  after (advance_apply shows real) leads (late _ leads)

theorem take (shows : tape.Shows stream) (real : stream.kind ≠ .endOfInput) (a : α) :
    Follows (take a) tape ((Parser.advance >>= fun _ => (Pure.pure a : Parser α)) stream) :=
  .advance shows real fun _ leads => .pure leads.shows a

theorem accept {yes no : TapeParser β} {kind : TokenKind} (shows : tape.Shows stream)
    (real : kind ≠ .endOfInput)
    (taken : stream.kind = kind → ∀ next, tape.Leads next stream.tail → Follows yes next result)
    (left : stream.kind ≠ kind → ∀ next, tape.Leads next stream → Follows no next result) :
    Follows (accept kind >>= fun taken => if taken then yes else no) tape result := by
  rw [TapeParser.accept, bind_assoc]
  refine .peek shows fun next leads => ?_
  by_cases here : stream.kind = kind
  · have further := leads.shows.leads_advanced (here ▸ real)
    rw [if_pos here, bind_assoc]
    refine .after (advance_apply leads.shows (here ▸ real)) further ?_
    rw [pure_bind]
    exact taken here _ (leads.trans further)
  · rw [if_neg here, pure_bind]
    exact left here next leads

theorem expect {kind : TokenKind} (shows : tape.Shows stream) (real : kind ≠ .endOfInput) :
    Follows (expect kind) tape (Parser.expect kind stream) := by
  rw [TapeParser.expect, Parser.expect, Parser.bind_peek]
  refine .peek shows fun next leads => ?_
  by_cases here : stream.kind = kind
  · rw [if_pos here, if_pos here]
    exact ⟨_, advance_apply leads.shows (here ▸ real), leads.shows.leads_advanced (here ▸ real)⟩
  · rw [if_neg here, if_neg here]
    exact .fail leads.shows _

theorem keyword (shows : tape.Shows stream) (word : Keyword) :
    Follows (keyword word) tape (Parser.keyword word stream) :=
  .expect shows (by simp)

theorem symbol (shows : tape.Shows stream) (mark : Symbol) :
    Follows (symbol mark) tape (Parser.symbol mark stream) :=
  .expect shows (by simp)

end Follows

section Separated

variable {phrase : TapeParser α} {like : Parser α} {size limit limitToo : Nat}
  {separator : TokenKind}

theorem follows_separated (real : separator ≠ .endOfInput) (each : Imitates phrase like size)
    (shows : tape.Shows stream) (small : stream.pending.length ≤ size)
    (short : stream.pending.length < limit) (shortToo : stream.pending.length ≤ limitToo) :
    Follows (separated separator phrase limit) tape
      (Parser.separated separator like limitToo stream) := by
  have repeats := Parser.repeats_separated real like
  induction limit generalizing limitToo tape stream with
  | zero => exact absurd short (Nat.not_lt_zero _)
  | succ limit ih =>
    rw [separated]
    refine .accept shows real (fun here next leads => ?_) fun other next leads => ?_
    · -- A separator is used up in each turn, so both limits outlast the tokens.
      have fewer := length_tail_of_kind real here
      rw [repeats.eq_of_not_stops (not_not.mpr here) shortToo]
      refine .bind (each leads.shows (by omega)) fun first last rest _ further => ?_
      have less := further.length_le leads.shows
      exact .bind (ih further.shows (by omega) (by omega) (by omega)) fun _ _ _ _ more =>
        .pure more.shows _
    · rw [repeats.eq_of_stops other]
      exact .pure leads.shows []

theorem imitates_sepBy1 (real : separator ≠ .endOfInput) (each : Imitates phrase like size) :
    Imitates (sepBy1 separator phrase) (Parser.sepBy1 separator like) size := by
  intro tape stream shows small
  refine .bind (each shows small) fun first next rest _ leads => ?_
  have less := leads.length_le shows
  exact .get leads.shows (.bind (follows_separated real each leads.shows (less.trans small)
    leads.shows.length_lt rest.length_le_bound) fun _ _ _ _ leads => .pure leads.shows _)

end Separated

theorem follows_name (shows : tape.Shows stream) :
    Follows name tape (Parser.name stream) := by
  refine .bind (.symbol shows .leftParen) fun _ next rest _ leads => ?_
  rw [Parser.bind_peek]
  refine .peek leads.shows fun next leads => ?_
  cases named : rest.kind.name? with
  | none => exact .fail leads.shows .name
  | some word =>
    have real : rest.kind ≠ .endOfInput := by
      intro ended
      rw [ended] at named
      cases named
    refine .advance leads.shows real fun next leads => ?_
    exact .bind (.symbol leads.shows .rightParen) fun _ _ _ _ leads => .pure leads.shows word

theorem follows_scoreName (shows : tape.Shows stream) :
    Follows scoreName tape (Parser.scoreName stream) :=
  .bind (.keyword shows .score) fun _ _ _ _ leads => follows_name leads.shows

theorem follows_value (shows : tape.Shows stream) :
    Follows value tape (Parser.value stream) := by
  rw [value, Parser.value, Parser.bind_get]
  refine .peek shows fun next leads => ?_
  cases here : stream.kind with
  | keyword word =>
    cases word with
    | var =>
      refine .advance leads.shows (by simp [here]) fun next leads => ?_
      exact .bind (follows_name leads.shows) fun _ _ _ _ leads => .pure leads.shows _
    | score =>
      exact .bind (follows_scoreName leads.shows) fun _ _ _ _ leads => .pure leads.shows _
    | _ => exact .fail leads.shows .value
  | string text => exact .take leads.shows (by simp [here]) _
  | integer number => exact .take leads.shows (by simp [here]) _
  | regex pattern => exact .take leads.shows (by simp [here]) _
  | _ => exact .fail leads.shows .value

theorem follows_comparison (shows : tape.Shows stream) :
    Follows comparison tape (Parser.comparison stream) := by
  rw [comparison, Parser.comparison, Parser.bind_peek]
  refine .peek shows fun next leads => ?_
  cases here : stream.kind with
  | symbol mark =>
    cases mark with
    | equal | notEqual | greater | greaterEqual | less | lessEqual =>
      exact .take leads.shows (by simp [here]) _
    | _ => exact .fail leads.shows .comparison
  | keyword word =>
    cases word with
    | contains | matches_ => exact .take leads.shows (by simp [here]) _
    | does =>
      refine .advance leads.shows (by simp [here]) fun next leads => ?_
      refine .bind (.keyword leads.shows .not) fun _ next rest _ leads => ?_
      rw [Parser.bind_peek]
      refine .peek leads.shows fun next leads => ?_
      cases behind : rest.kind with
      | keyword word =>
        cases word with
        | contain | match_ => exact .take leads.shows (by simp [behind]) _
        | _ => exact .fail leads.shows .containOrMatch
      | _ => exact .fail leads.shows .containOrMatch
    | _ => exact .fail leads.shows .comparison
  | _ => exact .fail leads.shows .comparison

theorem follows_members (shows : tape.Shows stream) :
    Follows members tape (Parser.members stream) := by
  refine .bind (.symbol shows .leftBracket) fun _ next rest _ leads => ?_
  have values : Imitates (sepBy1 (.symbol .comma) value)
      (Parser.sepBy1 (.symbol .comma) Parser.value) rest.pending.length :=
    imitates_sepBy1 (by simp) fun _ _ shows _ => follows_value shows
  refine .bind (values leads.shows (Nat.le_refl _)) fun _ next rest _ leads => ?_
  exact .bind (.symbol leads.shows .rightBracket) fun _ _ _ _ leads => .pure leads.shows _

theorem follows_comparisonOrList (shows : tape.Shows stream) :
    Follows comparisonOrList tape (Parser.comparisonOrList stream) := by
  refine .bind (follows_value shows) fun left next rest _ leads => ?_
  rw [Parser.bind_peek]
  refine .accept leads.shows (by simp) (fun here next leads => ?_) fun notNot next leads => ?_
  · rw [here]
    dsimp only
    rw [Parser.bind_advance]
    refine .bind (.keyword leads.shows .in_) fun _ next rest _ leads => ?_
    exact .bind (follows_members leads.shows) fun _ _ _ _ leads => .pure leads.shows _
  refine .accept leads.shows (by simp) (fun here next leads => ?_) fun notIn next leads => ?_
  · rw [here]
    dsimp only
    rw [Parser.bind_advance]
    exact .bind (follows_members leads.shows) fun _ _ _ _ leads => .pure leads.shows _
  have scalar : Follows (do return .scalar left (← comparison) (← value)) next
      ((do return .scalar left (← Parser.comparison) (← Parser.value) : Parser Condition) rest) :=
    .bind (follows_comparison leads.shows) fun _ _ _ _ leads =>
      .bind (follows_value leads.shows) fun _ _ _ _ leads => .pure leads.shows _
  cases here : rest.kind with
  | keyword word =>
    cases word with
    | not => exact absurd here notNot
    | in_ => exact absurd here notIn
    | _ => exact scalar
  | _ => exact scalar

theorem imitates_expressionOf {parser : TapeParser Condition} {like : Parser Condition}
    {size : Nat} (each : Imitates parser like size) :
    Imitates (expressionOf parser) (Parser.expressionOf like) size :=
  imitates_sepBy1 (by simp) (imitates_sepBy1 (by simp) each)

theorem follows_condition {depth depthToo : Nat} (shows : tape.Shows stream)
    (short : stream.pending.length < depth) (shortToo : stream.pending.length ≤ depthToo) :
    Follows (condition depth) tape (Parser.condition depthToo stream) := by
  induction depth generalizing depthToo tape stream with
  | zero => exact absurd short (Nat.not_lt_zero _)
  | succ depth ih =>
    rw [condition, Parser.condition_eq shortToo, Parser.bind_peek]
    refine .accept shows (by simp) (fun here next leads => ?_) fun other next leads => ?_
    · have fewer := length_tail_of_kind (by simp) here
      rw [if_pos here, Parser.bind_advance]
      refine .bind (imitates_expressionOf (fun _ _ shows small => ?_) leads.shows (Nat.le_refl _))
        fun _ next rest _ leads => ?_
      · exact ih shows (by omega) (by omega)
      · exact .bind (.symbol leads.shows .rightParen) fun _ _ _ _ leads => .pure leads.shows _
    · rw [if_neg other]
      exact follows_comparisonOrList leads.shows

theorem follows_expression (shows : tape.Shows stream) :
    Follows expression tape (Parser.expression stream) := by
  rw [expression, Parser.expression, Parser.bind_get]
  refine .get shows (imitates_expressionOf (fun _ _ further small => ?_) shows (Nat.le_refl _))
  exact follows_condition further (small.trans_lt shows.length_lt)
    (small.trans stream.length_le_bound)

theorem follows_scoreOp (shows : tape.Shows stream) :
    Follows scoreOp tape (Parser.scoreOp stream) := by
  rw [scoreOp, Parser.scoreOp, Parser.bind_peek]
  refine .peek shows fun next leads => ?_
  cases here : stream.kind with
  | symbol mark =>
    cases mark with
    | assign | addAssign | subAssign => exact .take leads.shows (by simp [here]) _
    | _ => exact .fail leads.shows .assignment
  | _ => exact .fail leads.shows .assignment

theorem follows_amount (shows : tape.Shows stream) :
    Follows amount tape (Parser.amount stream) := by
  rw [amount, Parser.amount, Parser.bind_peek]
  refine .peek shows fun next leads => ?_
  cases here : stream.kind with
  | integer number => exact .take leads.shows (by simp [here]) _
  | keyword word =>
    cases word with
    | score =>
      exact .bind (follows_scoreName leads.shows) fun _ _ _ _ leads => .pure leads.shows _
    | _ => exact .fail leads.shows .amount
  | _ => exact .fail leads.shows .amount

theorem follows_scoreChange (shows : tape.Shows stream) :
    Follows scoreChange tape (Parser.scoreChange stream) :=
  .bind (follows_scoreName shows) fun _ _ _ _ leads =>
    .bind (follows_scoreOp leads.shows) fun _ _ _ _ leads =>
      .bind (follows_amount leads.shows) fun _ _ _ _ leads => .pure leads.shows _

theorem follows_statements {stops : TokenKind → Prop} [DecidablePred stops]
    {parser : TapeParser Statement} {like : Parser Statement}
    {loop : Nat → Parser (List Statement)} {size limit limitToo : Nat}
    (repeats : Parser.Repeats stops like loop)
    (each : Imitates parser like size) (moves : Shortens like size)
    (shows : tape.Shows stream) (small : stream.pending.length ≤ size)
    (short : stream.pending.length < limit) (shortToo : stream.pending.length ≤ limitToo) :
    Follows (statements stops parser limit) tape (loop limitToo stream) := by
  induction limit generalizing limitToo tape stream with
  | zero => exact absurd short (Nat.not_lt_zero _)
  | succ limit ih =>
    rw [statements]
    refine .peek shows fun next leads => ?_
    by_cases stopped : stops stream.kind
    · rw [if_pos stopped, repeats.eq_of_stops stopped]
      exact .pure leads.shows []
    · rw [if_neg stopped, repeats.eq_of_not_stops stopped shortToo]
      refine .bind (each leads.shows small) fun first last rest read further => ?_
      have less := moves small read
      exact .bind (ih further.shows (by omega) (by omega) (by omega)) fun _ _ _ _ more =>
        .pure more.shows _

theorem shortens_statement (depth : Nat) : Shortens (Parser.statement depth) depth :=
  fun _ _ _ short read =>
    (Parser.starts_statement ((Parser.reads_statement depth short).mp read).1).2

theorem follows_rule {parser : TapeParser Statement} {like : Parser Statement} {size : Nat}
    (each : Imitates parser like size) (moves : Shortens like size)
    (shows : tape.Shows stream) (here : stream.kind = .keyword .when)
    (small : stream.tail.pending.length ≤ size) :
    Follows (rule parser) tape (Parser.ruleOf like stream) := by
  have taken : Parser.keyword .when stream = Parser.advance stream := by
    rw [Parser.keyword, Parser.expect, Parser.bind_peek, if_pos here]
  refine .bind (taken ▸ Follows.keyword shows .when) fun _ next rest behind leads => ?_
  obtain rfl := Parser.advance_eq_ok.mp behind
  refine .bind (follows_expression leads.shows) fun condition last rest _ further => ?_
  have less := further.length_le leads.shows
  refine .bind (.keyword further.shows .then_) fun _ _ rest _ more => ?_
  have lesser := more.length_le further.shows
  rw [Parser.bind_get]
  refine .get more.shows (.bind (follows_statements (Parser.repeats_consequences like) each moves
    more.shows (by omega) more.shows.length_lt rest.length_le_bound) fun _ _ _ _ leads => ?_)
  exact .bind (.keyword leads.shows .done) fun _ _ _ _ leads => .pure leads.shows _

theorem follows_statement {depth depthToo : Nat} (shows : tape.Shows stream)
    (short : stream.pending.length < depth) (shortToo : stream.pending.length ≤ depthToo) :
    Follows (statement depth) tape (Parser.statement depthToo stream) := by
  induction depth generalizing depthToo tape stream with
  | zero => exact absurd short (Nat.not_lt_zero _)
  | succ depth ih =>
    rw [statement, Parser.statement_eq shortToo, Parser.bind_peek]
    refine .peek shows fun next leads => ?_
    cases here : stream.kind with
    | keyword word =>
      cases word with
      | when =>
        have fewer := length_tail_of_kind (by simp) here
        exact follows_rule (fun _ _ shows small => ih shows (by omega) (by omega))
          (fun _ _ _ small read => shortens_statement _ (by omega) read) leads.shows here
          (Nat.le_refl _)
      | score => exact follows_scoreChange leads.shows
      | exit => exact .take leads.shows (by simp [here]) _
      | _ => exact .fail leads.shows .statement
    | _ => exact .fail leads.shows .statement

theorem follows_program (shows : tape.Shows stream) :
    Follows program tape (Parser.program stream.bound stream) := by
  refine .get shows (follows_statements Parser.repeats_program (fun next rest further less => ?_)
    (fun rest last a _ read => ?_) shows (Nat.le_refl _) shows.length_lt stream.length_le_bound)
  · rw [Parser.bind_get]
    exact follows_statement further (less.trans_lt shows.length_lt) rest.length_le_bound
  · rw [Parser.bind_get] at read
    exact shortens_statement rest.bound rest.length_le_bound read

end TapeParser

/-- A call made a number of times in a row: what each call gives, and the state behind the last. -/
def successive (call : σ → α × σ) : Nat → σ → List α × σ
  | 0, state => ([], state)
  | count + 1, state =>
    let later := successive call count (call state).2
    ((call state).1 :: later.1, later.2)

namespace TokenStream

variable {stream : TokenStream}

theorem parse_of_kind (ended : stream.kind = .endOfInput) : stream.parse = (.ok [], stream) := by
  have read : Parser.program stream.bound stream = .ok ([], stream) :=
    Parser.repeats_program.eq_of_stops ended
  rw [parse, read]

theorem kind_of_parse {rules : List Statement} (parsed : stream.parse.1 = .ok rules) :
    stream.parse.2.kind = .endOfInput := by
  unfold parse at parsed ⊢
  split at parsed
  · rename_i read
    exact ((Parser.program_eq_ok stream.length_le_bound).mp read).2
  · cases parsed

theorem eq_of_mem_successive {answer : Except CompileError (List Statement)} (count : Nat)
    (ended : stream.kind = .endOfInput) (given : answer ∈ (successive parse count stream).1) :
    answer = .ok [] := by
  induction count with
  | zero => cases given
  | succ count ih =>
    rw [successive, parse_of_kind ended] at given
    rcases List.mem_cons.mp given with first | later
    · exact first
    · exact ih later

theorem pairwise_successive (count : Nat) (stream : TokenStream) :
    (successive parse count stream).1.Pairwise fun earlier later =>
      ∀ rules, earlier = .ok rules → later = .ok [] := by
  induction count generalizing stream with
  | zero => exact .nil
  | succ count ih =>
    refine List.pairwise_cons.mpr ⟨fun answer given rules parsed => ?_, ih stream.parse.2⟩
    exact eq_of_mem_successive count (kind_of_parse parsed) given

theorem ofTokens_append (before behind other : List Token) {finish : Token}
    (ends : finish.kind = .endOfInput) :
    (ofTokens (before ++ finish :: behind)).pending =
        (ofTokens (before ++ finish :: other)).pending ∧
      (ofTokens (before ++ finish :: behind)).finish =
        (ofTokens (before ++ finish :: other)).finish := by
  constructor
  · simp [ofTokens, List.takeWhile_append, ends]
  · simp [ofTokens, List.find?_append, ends]

end TokenStream

namespace TokenTape

variable {tape : TokenTape} {stream : TokenStream}

theorem parse_follows (shows : tape.Shows stream) :
    tape.parse.1 = stream.parse.1.mapError .refused ∧ tape.Leads tape.parse.2 stream.parse.2 := by
  have follows := TapeParser.follows_program shows
  unfold TokenStream.parse TokenTape.parse
  rcases read : Parser.program stream.bound stream with failure | ⟨rules, rest⟩
  · rw [read] at follows
    obtain ⟨next, stopped, leads⟩ := follows
    rw [stopped]
    exact ⟨rfl, leads⟩
  · rw [read] at follows
    obtain ⟨next, gives, leads⟩ := follows
    rw [gives]
    exact ⟨rfl, leads⟩

theorem successive_follows (shows : tape.Shows stream) (count : Nat) :
    (successive parse count tape).1 =
        (successive TokenStream.parse count stream).1.map (·.mapError .refused) ∧
      tape.Leads (successive parse count tape).2 (successive TokenStream.parse count stream).2 := by
  induction count generalizing tape stream with
  | zero => exact ⟨rfl, shows.leads⟩
  | succ count ih =>
    obtain ⟨same, leads⟩ := parse_follows shows
    obtain ⟨more, further⟩ := ih leads.shows
    refine ⟨?_, leads.trans further⟩
    rw [successive, successive, List.map_cons, ← same, ← more]

/-- A parser asked for a program again and again stays on its tokens: it looks at none behind the
first end of input and never goes back. Each call gives rules or refuses a token, as on the stream
of the tokens; the tokens behind an end of input change nothing, and behind a call that gives rules
there are no more of them. -/
theorem successive_parse (tokens : List Token) (count : Nat) :
    let start := ofTokens tokens
    let answers := (successive parse count start).1
    let last := (successive parse count start).2
    (last.tokens = start.tokens ∧ start.finish < start.tokens.length ∧
      (∀ index ∈ last.current :: last.trail, index ≤ start.finish) ∧
      (last.current :: last.trail).Pairwise (· ≥ ·)) ∧
    answers = (successive TokenStream.parse count (.ofTokens tokens)).1.map (·.mapError .refused) ∧
    (∀ before finish behind other, tokens = before ++ finish :: behind →
      finish.kind = .endOfInput →
        (successive parse count (ofTokens (before ++ finish :: other))).1 = answers) ∧
    answers.Pairwise fun earlier later => ∀ rules, earlier = .ok rules → later = .ok [] := by
  intro start answers last
  have shows := shows_ofTokens tokens
  obtain ⟨same, leads⟩ := successive_follows shows count
  refine ⟨⟨leads.tokens, shows.finish_lt, ?_, leads.shows.descending⟩, same, ?_, ?_⟩
  · intro index seen
    have inside := leads.shows.inside
    rw [finish_congr leads.tokens] at inside
    rcases List.mem_cons.mp seen with rfl | seen
    · exact inside
    · exact ((List.pairwise_cons.mp leads.shows.descending).1 index seen).trans inside
  · rintro before finish behind other rfl ends
    -- the other tape shows the same stream
    obtain ⟨pending, place⟩ := TokenStream.ofTokens_append before behind other ends
    have shows := (shows_ofTokens (before ++ finish :: other)).congr pending place
    exact (successive_follows shows count).1.trans same.symm
  · rw [show answers = _ from same, List.pairwise_map]
    refine (TokenStream.pairwise_successive count _).imp fun {earlier later} none rules parsed => ?_
    cases earlier with
    | error error => cases parsed
    | ok statements => rw [none statements rfl]; rfl

end TokenTape

end ScoringRules
