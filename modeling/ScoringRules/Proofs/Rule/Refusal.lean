import ScoringRules.Proofs.Rule.Lookahead
import ScoringRules.Proofs.Rule.Parsing

/-!
A token list that is no program is refused at the first token that cannot continue one.
-/

namespace ScoringRules

open Grammar TokenStream

namespace Parser

variable {s t : TokenStream}

theorem Tracks.branch {phrases : Language Token} {parser like : Parser α} {kind : TokenKind}
    (here : s.kind = kind) (does : ∀ {u : TokenStream}, u.kind = kind → parser u = like u)
    (tracks : Tracks phrases like like s t) : Tracks phrases parser parser s t :=
  .of_kind (does here) (fun same => does (same.trans here)) tracks

theorem Tracks.one {kind : TokenKind} {a : α} (real : kind ≠ .endOfInput) (here : s.kind = kind) :
    Tracks (token kind) (advance >>= fun _ => Pure.pure a) (advance >>= fun _ => Pure.pure a)
      s t := by
  rw [← mul_one (token kind)]
  exact takeKind real here (pure a)

theorem Tracks.single {phrases : α → Language Token} {kind : TokenKind} {a : α}
    (real : kind ≠ .endOfInput) (here : s.kind = kind) (only : token kind = phrases a) :
    Tracks (⨆ a, phrases a) (advance >>= fun _ => Pure.pure a) (advance >>= fun _ => Pure.pure a)
      s t :=
  (one real here).mono (only ▸ le_iSup phrases a)

theorem tracks_keyword (word : Keyword) :
    Tracks (Grammar.keyword word) (keyword word) (keyword word) s t :=
  .expect (by simp)

theorem tracks_symbol (mark : Symbol) :
    Tracks (Grammar.symbol mark) (symbol mark) (symbol mark) s t :=
  .expect (by simp)

instance (name : String) : Completable (Grammar.word name) :=
  ⟨[⟨.identifier name, .nowhere⟩], by simp, .nowhere, .inl rfl⟩

instance : Completable (⨆ name, Grammar.word name) :=
  completable_iSup ""

theorem tracks_name : Tracks (⨆ word, Grammar.name word) name name s t := by
  have sub : Grammar.symbol .leftParen * ((⨆ word, Grammar.word word) *
      Grammar.symbol .rightParen) ≤ ⨆ word, Grammar.name word := by
    rw [Language.iSup_mul, Language.mul_iSup]
    exact iSup_mono fun word => le_of_eq (mul_assoc _ _ _).symm
  refine .mono (.bind (tracks_symbol .leftParen) fun _ count _ => .peek ?_) sub
  generalize s.drop count = s, t.drop count = t
  cases named : s.kind.name? with
  | none => exact .fail _
  | some word =>
    obtain ⟨token, there, same⟩ : ∃ token, s.pending.head? = some token ∧
        token.kind.name? = some word := by
      unfold TokenStream.kind at named
      cases next : s.pending.head? with
      | none => simp [next, TokenKind.name?] at named
      | some token => exact ⟨token, rfl, by simpa [next] using named⟩
    exact .take there (Language.mem_iSup.mpr ⟨word, mem_word.mpr same⟩)
      (.map _ (tracks_symbol .rightParen))

instance : Completable (⨆ word, Grammar.name word) := by
  have : Completable (Grammar.name "") := by
    unfold Grammar.name
    infer_instance
  exact completable_iSup ""

theorem tracks_scoreName : Tracks (⨆ score, Grammar.scoreName score) scoreName scoreName s t := by
  refine (Tracks.bind (tracks_keyword .score) fun _ _ _ => tracks_name).mono ?_
  rw [Language.mul_iSup]
  rfl

instance (value : Int64) : Completable (Value.int value).phrases :=
  completable_token (by simp)

instance : Completable (⨆ a, Value.phrases a) :=
  completable_iSup (.int 0)

theorem tracks_regex {pattern : String} (here : s.kind = .regex pattern) :
    Tracks (⨆ a, Value.phrases a) value value s t := by
  obtain ⟨⟨kind, place⟩, there, same⟩ := (kind_eq_iff (by simp)).mp here
  obtain rfl : kind = .regex pattern := same
  have reads {u : TokenStream} (next : u.pending.head? = some ⟨.regex pattern, place⟩) :
      value u = .ok (.regex pattern place, u.drop 1) := by
    have kind : u.kind = .regex pattern := by simp [TokenStream.kind, next]
    have location : u.location = place := by simp [TokenStream.location, next]
    rw [value, bind_get, kind, ← tail_eq_drop, ← location]
    rfl
  refine ⟨1, .ok (.regex pattern place), reads there, fun agrees => ?_, ?_⟩
  · have first := agrees.1 0 Nat.one_pos
    rw [← List.head?_eq_getElem?, ← List.head?_eq_getElem?, there] at first
    exact reads first.symm
  · rw [List.take_one, there]
    exact Language.mem_iSup.mpr ⟨.regex pattern place, rfl⟩

theorem tracks_value : Tracks (⨆ a, Value.phrases a) value value s t := by
  cases here : s.kind with
  | regex pattern => exact tracks_regex here
  | keyword word =>
    cases word with
    | var =>
      refine .branch here (fun here => by rw [value, bind_get, here])
        ((Tracks.takeKind (by simp) here (.map Value.var tracks_name)).mono ?_)
      rw [Language.mul_iSup]
      exact iSup_le fun name => le_iSup Value.phrases (.var name)
    | score =>
      refine .branch here (fun here => by rw [value, bind_get, here])
        ((Tracks.map Value.score tracks_scoreName).mono ?_)
      exact iSup_le fun name => le_iSup Value.phrases (.score name)
    | _ => exact .branch here (fun here => by rw [value, bind_get, here]) (.fail .value)
  | string text =>
    exact .branch here (fun here => by rw [value, bind_get, here])
      (.single (by simp) here rfl)
  | integer number =>
    exact .branch here (fun here => by rw [value, bind_get, here])
      (.single (by simp) here rfl)
  | _ => exact .branch here (fun here => by rw [value, bind_get, here]) (.fail .value)

instance : Completable (⨆ a, Comparison.phrases a) := by
  have : Completable Comparison.equal.phrases := inferInstanceAs (Completable (Grammar.symbol _))
  exact completable_iSup .equal

theorem tracks_comparison : Tracks (⨆ a, Comparison.phrases a) comparison comparison s t := by
  refine .peek ?_
  cases here : s.kind with
  | symbol mark =>
    cases mark with
    | equal => exact .single (by simp) here rfl
    | notEqual => exact .single (by simp) here rfl
    | greater => exact .single (by simp) here rfl
    | greaterEqual => exact .single (by simp) here rfl
    | less => exact .single (by simp) here rfl
    | lessEqual => exact .single (by simp) here rfl
    | _ => exact .fail _
  | keyword word =>
    cases word with
    | contains => exact .single (by simp) here rfl
    | matches_ => exact .single (by simp) here rfl
    | does =>
      have sub : Grammar.keyword .does *
          (Grammar.keyword .not * (Grammar.keyword .contain + Grammar.keyword .match_)) ≤
          ⨆ a, Comparison.phrases a := by
        rw [mul_add, mul_add, ← mul_assoc, ← mul_assoc]
        exact add_le (le_iSup Comparison.phrases .doesNotContain)
          (le_iSup Comparison.phrases .doesNotMatch)
      refine .mono (.takeKind (by simp) here
        (.bind (tracks_keyword .not) fun _ count _ => .peek ?_)) sub
      cases behind : (s.tail.drop count).kind with
      | keyword word =>
        cases word with
        | contain => exact (Tracks.one (by simp) behind).mono le_self_add
        | match_ => exact (Tracks.one (by simp) behind).mono le_add_self
        | _ => exact .fail _
      | _ => exact .fail _
    | _ => exact .fail _
  | _ => exact .fail _

def memberPhrases : Language Token :=
  Grammar.symbol .leftBracket *
    ((⨆ items : List Value, joined (Grammar.symbol .comma) (items.map Value.phrases)) *
      Grammar.symbol .rightBracket)

instance : Completable memberPhrases := by
  unfold memberPhrases
  infer_instance

theorem tracks_members : Tracks memberPhrases members members s t :=
  .bind (tracks_symbol .leftBracket) fun _ _ _ =>
    .bind (tracks_sepBy1 (by simp) (fun _ _ => tracks_value) (Nat.le_refl _) (Nat.le_refl _))
      fun _ _ _ => .map _ (tracks_symbol .rightBracket)

def relationPhrases : Language Token :=
  Grammar.keyword .not * (Grammar.keyword .in_ * memberPhrases) +
    Grammar.keyword .in_ * memberPhrases + (⨆ a, Comparison.phrases a) * ⨆ a, Value.phrases a

instance : Completable relationPhrases := by
  unfold relationPhrases
  infer_instance

theorem mul_relationPhrases_le :
    (⨆ a, Value.phrases a) * relationPhrases ≤ ⨆ a, Condition.phrases a := by
  rw [Language.iSup_mul]
  refine iSup_le fun left => ?_
  simp only [relationPhrases, memberPhrases, mul_add, Language.iSup_mul, Language.mul_iSup]
  refine add_le (add_le (iSup_le fun members => ?_) (iSup_le fun members => ?_))
    (iSup_le fun cmp => iSup_le fun right => ?_)
  · refine le_of_eq_of_le ?_ (le_iSup Condition.phrases (.list left true members))
    simp only [Condition.phrases, if_true, mul_assoc]
  · refine le_of_eq_of_le ?_ (le_iSup Condition.phrases (.list left false members))
    simp only [Condition.phrases, Bool.false_eq_true, if_false, one_mul, mul_assoc]
  · refine le_of_eq_of_le ?_ (le_iSup Condition.phrases (.scalar left right cmp))
    simp only [Condition.phrases, mul_assoc]

theorem tracks_comparisonOrList :
    Tracks (⨆ a, Condition.phrases a) comparisonOrList comparisonOrList s t := by
  refine (Tracks.bind tracks_value fun left count _ => .peek ?_).mono mul_relationPhrases_le
  generalize s.drop count = s, t.drop count = t
  have compared {like : Parser Condition}
      (same : like = do return .scalar left (← comparison) (← value)) :
      Tracks relationPhrases like like s t := by
    rw [same]
    exact (Tracks.bind tracks_comparison fun _ _ _ => .map _ tracks_value).mono le_add_self
  cases here : s.kind with
  | keyword word =>
    cases word with
    | not =>
      refine (Tracks.takeKind (by simp) here (.bind (tracks_keyword .in_) fun _ _ _ =>
        .map _ tracks_members)).mono ?_
      exact le_self_add.trans le_self_add
    | in_ =>
      refine (Tracks.takeKind (by simp) here (.map _ tracks_members)).mono ?_
      exact le_add_self.trans le_self_add
    | _ => exact compared rfl
  | _ => exact compared rfl

theorem tracks_expressionOf {parser parserToo : Parser Condition} {size sizeToo : Nat}
    (each : ∀ {s t : TokenStream}, s.pending.length ≤ size → t.pending.length ≤ sizeToo →
      Tracks (⨆ a, Condition.phrases a) parser parserToo s t)
    (small : s.pending.length ≤ size) (smallToo : t.pending.length ≤ sizeToo) :
    Tracks (⨆ a, Grammar.expression a) (expressionOf parser) (expressionOf parserToo) s t :=
  tracks_sepBy1 (by simp) (tracks_sepBy1 (by simp) each) small smallToo

theorem condition_eq {depth : Nat} (short : s.pending.length ≤ depth) :
    condition depth s = (do
      if (← peek) = .symbol .leftParen then
        advance
        let clauses ← expressionOf (condition (depth - 1))
        symbol .rightParen
        return .nested clauses
      else comparisonOrList : Parser Condition) s := by
  cases depth with
  | zero =>
    have nothing := kind_of_length_le_zero short
    rw [bind_peek, nothing]
    rfl
  | succ depth => rfl

theorem tracks_condition {depth depthToo : Nat} (short : s.pending.length ≤ depth)
    (shortToo : t.pending.length ≤ depthToo) :
    Tracks (⨆ a, Condition.phrases a) (condition depth) (condition depthToo) s t := by
  induction depth generalizing depthToo s t with
  | zero =>
    have nothing := kind_of_length_le_zero short
    refine .of_kind rfl (fun same => ?_) tracks_comparisonOrList
    rw [condition_eq shortToo, bind_peek, same, nothing]
    rfl
  | succ depth ih =>
    refine .of_kind (condition_eq short) (fun _ => condition_eq shortToo) (.peek ?_)
    by_cases opened : s.kind = .symbol .leftParen
    · rw [if_pos opened, if_pos opened]
      have inside : Tracks (⨆ a, Grammar.expression a) (expressionOf (condition depth))
          (expressionOf (condition (depthToo - 1))) s.tail t.tail := by
        refine tracks_expressionOf ih ?_ ?_
        all_goals
          rw [length_pending_tail]
          omega
      refine (Tracks.takeKind (by simp) opened (.bind inside
        fun _ _ _ => .map _ (tracks_symbol .rightParen))).mono ?_
      rw [Language.iSup_mul, Language.mul_iSup]
      refine iSup_le fun clauses => le_of_eq_of_le ?_ (le_iSup Condition.phrases (.nested clauses))
      rw [Grammar.phrases_nested, mul_assoc]
      rfl
    · rw [if_neg opened, if_neg opened]
      exact tracks_comparisonOrList

theorem tracks_expression : Tracks (⨆ a, Grammar.expression a) expression expression s t := by
  refine .of_kind (by rw [expression, bind_get]) (fun _ => by rw [expression, bind_get]) ?_
  exact tracks_expressionOf tracks_condition s.length_le_bound t.length_le_bound

instance : Completable (⨆ a, ScoreOp.phrases a) := by
  have : Completable ScoreOp.set.phrases := inferInstanceAs (Completable (Grammar.symbol _))
  exact completable_iSup .set

theorem tracks_scoreOp : Tracks (⨆ a, ScoreOp.phrases a) scoreOp scoreOp s t := by
  refine .peek ?_
  cases here : s.kind with
  | symbol mark =>
    cases mark with
    | assign => exact .single (by simp) here rfl
    | addAssign => exact .single (by simp) here rfl
    | subAssign => exact .single (by simp) here rfl
    | _ => exact .fail _
  | _ => exact .fail _

instance : Completable (⨆ a, Amount.phrases a) := by
  have : Completable (Amount.int 0).phrases := completable_token (by simp)
  exact completable_iSup (.int 0)

theorem tracks_amount : Tracks (⨆ a, Amount.phrases a) amount amount s t := by
  refine .peek ?_
  cases here : s.kind with
  | integer number => exact .single (by simp) here rfl
  | keyword word =>
    cases word with
    | score =>
      refine (Tracks.map Amount.score tracks_scoreName).mono ?_
      exact iSup_le fun name => le_iSup Amount.phrases (.score name)
    | _ => exact .fail _
  | _ => exact .fail _

theorem tracks_scoreChange : Tracks (⨆ a, Statement.phrases a) scoreChange scoreChange s t := by
  refine (Tracks.bind tracks_scoreName fun score _ _ => .bind tracks_scoreOp fun op _ _ =>
    .map (Statement.change score op) tracks_amount).mono ?_
  simp only [Language.iSup_mul, Language.mul_iSup]
  refine iSup_le fun amount => iSup_le fun op => iSup_le fun score => ?_
  refine le_of_eq_of_le ?_ (le_iSup Statement.phrases (.change score op amount))
  rw [Statement.phrases, mul_assoc]

instance : Completable (⨆ a, Statement.phrases a) := by
  have : Completable Statement.exit.phrases := inferInstanceAs (Completable (Grammar.keyword _))
  exact completable_iSup .exit

theorem nil_notMem_statement (a : Statement) : [] ∉ a.phrases := by
  intro member
  have shorter := (starts_statement (s := ofTokens []) ⟨[], member, rfl, rfl, rfl⟩).2
  exact Nat.lt_irrefl _ shorter

theorem repeats_consequences (parser : Parser Statement) :
    Repeats EndsRule parser (consequences parser) where
  finished := .inr rfl
  never := rfl
  halts limit u stopped := by
    rw [consequences, bind_peek]
    exact congrFun (if_pos stopped) u
  goes limit u onward := by
    rw [consequences, bind_peek]
    exact congrFun (if_neg onward) u

def ruleOf (parser : Parser Statement) : Parser Statement := do
  advance
  let condition ← expression
  keyword .then_
  let statements ← consequences parser (← get).bound
  keyword .done
  return .rule condition statements

theorem mul_rulePhrases_le :
    Grammar.keyword .when * ((⨆ a, Grammar.expression a) * (Grammar.keyword .then_ *
      (repeated Statement.phrases * Grammar.keyword .done))) ≤ ⨆ a, Statement.phrases a := by
  simp only [repeated, Language.iSup_mul, Language.mul_iSup]
  refine iSup_le fun statements => iSup_le fun condition => ?_
  refine le_of_eq_of_le ?_ (le_iSup Statement.phrases (.rule condition statements))
  simp only [Grammar.phrases_rule, Grammar.statements, mul_assoc]

theorem tracks_rule {parser parserToo : Parser Statement} {size sizeToo : Nat}
    (each : ∀ {s t : TokenStream}, s.pending.length ≤ size → t.pending.length ≤ sizeToo →
      Tracks (⨆ a, Statement.phrases a) parser parserToo s t)
    (here : s.kind = .keyword .when) (small : s.tail.pending.length ≤ size)
    (smallToo : t.tail.pending.length ≤ sizeToo) :
    Tracks (⨆ a, Statement.phrases a) (ruleOf parser) (ruleOf parserToo) s t := by
  refine (Tracks.takeKind (by simp) here (.bind tracks_expression fun condition count _ =>
    .bind (tracks_keyword .then_) fun _ more _ =>
      .of_kind bind_get (fun _ => bind_get) (.bind ?_ fun statements _ _ =>
        .map _ (tracks_keyword .done)))).mono mul_rulePhrases_le
  refine (repeats_consequences parser).tracks (repeats_consequences parserToo)
    nil_notMem_statement (fun _ => each) (TokenStream.length_le_bound _)
    (TokenStream.length_le_bound _) ?_ ?_
  all_goals
    rw [length_pending_drop, length_pending_drop]
    omega

theorem statement_eq {depth : Nat} (short : s.pending.length ≤ depth) :
    statement depth s = (do
      match ← peek with
      | .keyword .when => ruleOf (statement (depth - 1))
      | .keyword .score => scoreChange
      | .keyword .exit =>
        advance
        return .exit
      | _ => fail .statement : Parser Statement) s := by
  cases depth with
  | zero =>
    have nothing := kind_of_length_le_zero short
    rw [bind_peek, nothing]
    rfl
  | succ depth => rfl

theorem tracks_statement {depth depthToo : Nat} (short : s.pending.length ≤ depth)
    (shortToo : t.pending.length ≤ depthToo) :
    Tracks (⨆ a, Statement.phrases a) (statement depth) (statement depthToo) s t := by
  induction depth generalizing depthToo s t with
  | zero =>
    have nothing := kind_of_length_le_zero short
    refine .of_kind rfl (fun same => ?_) (.fail .statement)
    rw [statement_eq shortToo, bind_peek, same, nothing]
  | succ depth ih =>
    refine .of_kind (statement_eq short) (fun _ => statement_eq shortToo) (.peek ?_)
    cases here : s.kind with
    | keyword word =>
      cases word with
      | when =>
        refine tracks_rule ih here ?_ ?_
        all_goals
          rw [length_pending_tail]
          omega
      | score => exact tracks_scoreChange
      | exit => exact .single (by simp) here rfl
      | _ => exact .fail _
    | _ => exact .fail _

theorem repeats_program :
    Repeats (· = .endOfInput) (get >>= fun u => statement u.bound) program where
  finished := rfl
  never := rfl
  halts limit u stopped := by
    rw [program, bind_peek, if_pos stopped]
  goes limit u onward := by
    rw [program, bind_peek, if_neg onward]
    rfl

theorem tracks_program :
    Tracks (repeated Statement.phrases) (program s.bound) (program t.bound) s t := by
  have each {s t : TokenStream} : Tracks (⨆ a, Statement.phrases a)
      (get >>= fun u => statement u.bound) (get >>= fun u => statement u.bound) s t :=
    .of_kind bind_get (fun _ => bind_get) (tracks_statement s.length_le_bound t.length_le_bound)
  exact repeats_program.tracks repeats_program nil_notMem_statement (fun _ _ _ => each)
    s.length_le_bound t.length_le_bound (Nat.le_refl _) (Nat.le_refl _)

theorem Stops.error_of_eq {parser : Parser α} {count : Nat} {result : Except Expectation α}
    {failure : ParseFailure} (stops : Stops parser s count result)
    (failed : parser s = .error failure) :
    ∃ what, result = .error what ∧ failure = ⟨what, s.drop count⟩ := by
  cases result with
  | ok a => cases stops.symm.trans failed
  | error what => exact ⟨what, rfl, (Except.error.inj (stops.symm.trans failed)).symm⟩

end Parser

namespace TokenStream

def Ended (tokens : List Token) : Prop :=
  ∃ inner finish, tokens = inner ++ [finish] ∧ (∀ token ∈ inner, token.kind ≠ .endOfInput) ∧
    finish.kind = .endOfInput

variable {tokens before rest : List Token} {next : Token} {count : Nat} {error : CompileError}

theorem pending_ofTokens (inside : ∀ token ∈ before, token.kind ≠ .endOfInput) :
    (ofTokens (before ++ rest)).pending = before ++ (ofTokens rest).pending :=
  List.takeWhile_append_of_pos (by simpa using inside)

theorem finish_ofTokens (inside : ∀ token ∈ before, token.kind ≠ .endOfInput)
    (ends : next.kind = .endOfInput) :
    (ofTokens (before ++ next :: rest)).finish = next.location := by
  have absent : before.find? (fun token => token.kind == .endOfInput) = none := by
    simpa using inside
  simp [ofTokens, List.find?_append, absent, ends]

/-- A count of tokens leads to the next one; past the end of input it leads there. -/
def LeadsTo (count : Nat) (before : List Token) (next : Token) : Prop :=
  (∀ token ∈ before, token.kind ≠ .endOfInput) ∧
    (count = before.length ∨ next.kind = .endOfInput ∧ before.length ≤ count)

theorem LeadsTo.drop_ofTokens (leads : LeadsTo count before next) (rest : List Token) :
    (ofTokens (before ++ next :: rest)).pending.take count = before ∧
      ((ofTokens (before ++ next :: rest)).drop count).kind = next.kind ∧
      ((ofTokens (before ++ next :: rest)).drop count).location = next.location := by
  obtain ⟨inside, place⟩ := leads
  rw [kind_drop, location_drop, pending_ofTokens inside]
  by_cases ends : next.kind = .endOfInput
  · have reached : before.length ≤ count := by omega
    have nothing : (ofTokens (next :: rest)).pending = [] := by simp [ofTokens, ends]
    rw [nothing, List.append_nil, List.take_of_length_le reached, List.getElem?_eq_none reached,
      finish_ofTokens inside ends]
    exact ⟨rfl, ends.symm, rfl⟩
  · obtain rfl : count = before.length := place.resolve_right fun past => ends past.1
    have more : (ofTokens (next :: rest)).pending = next :: (ofTokens rest).pending := by
      simp [ofTokens, ends]
    rw [more, List.take_left]
    simp

theorem LeadsTo.agrees (leads : LeadsTo count before next) (first second : List Token) :
    (ofTokens (before ++ next :: first)).Agrees (ofTokens (before ++ next :: second)) count := by
  obtain ⟨front, kind, -⟩ := leads.drop_ofTokens first
  obtain ⟨frontToo, kindToo, -⟩ := leads.drop_ofTokens second
  exact .of_take (front.trans frontToo.symm) (kind.trans kindToo.symm)

theorem LeadsTo.congr {other : Nat} (leads : LeadsTo count before next)
    (same : (ofTokens (before ++ next :: rest)).drop other =
      (ofTokens (before ++ next :: rest)).drop count) : LeadsTo other before next := by
  obtain ⟨inside, place⟩ := leads
  refine ⟨inside, ?_⟩
  have left := congrArg (fun stream => stream.pending.length) same
  simp only [TokenStream.drop, List.length_drop, pending_ofTokens inside, List.length_append]
    at left
  by_cases ends : next.kind = .endOfInput
  · have nothing : (ofTokens (next :: rest)).pending = [] := by simp [ofTokens, ends]
    rw [nothing, List.length_nil] at left
    exact .inr ⟨ends, by omega⟩
  · have more : (ofTokens (next :: rest)).pending = next :: (ofTokens rest).pending := by
      simp [ofTokens, ends]
    rw [more, List.length_cons] at left
    have reached := place.resolve_right fun past => ends past.1
    exact .inl (by omega)

theorem exists_leadsTo (ended : Ended tokens) (count : Nat) :
    ∃ before next behind, tokens = before ++ next :: behind ∧ LeadsTo count before next := by
  obtain ⟨inner, finish, rfl, inside, ends⟩ := ended
  by_cases more : count < inner.length
  · refine ⟨inner.take count, inner[count], inner.drop (count + 1) ++ [finish], ?_,
      fun token member => inside token (List.mem_of_mem_take member), .inl ?_⟩
    · rw [← List.cons_append, ← List.append_assoc, List.getElem_cons_drop, List.take_append_drop]
    · rw [List.length_take_of_le more.le]
  · exact ⟨inner, finish, [], rfl, inside, .inr ⟨ends, Nat.le_of_not_lt more⟩⟩

theorem parse_eq_error {stream : TokenStream} : stream.parse.1 = .error error ↔
    ∃ failure, Parser.program stream.bound stream = .error failure ∧ failure.error = error := by
  unfold parse
  split
  · rename_i read
    simp [read]
  · rename_i failure read
    simp [read]

theorem exists_parse_of_beginnings (begun : before ∈ beginnings (repeated Statement.phrases))
    (inside : ∀ token ∈ before, token.kind ≠ .endOfInput) :
    ∃ rest rules, Ended (before ++ rest) ∧ (ofTokens (before ++ rest)).parse.1 = .ok rules := by
  obtain ⟨rest, real, whole⟩ := begun
  obtain ⟨rules, member⟩ := Language.mem_iSup.mp whole
  have real := List.forall_mem_append.mpr ⟨inside, real⟩
  refine ⟨rest ++ [⟨.endOfInput, .nowhere⟩], rules, ?_, parse_of_mem ?_⟩
  · exact ⟨before ++ rest, _, (List.append_assoc _ _ _).symm, real, rfl⟩
  · rw [← List.append_assoc, ofTokens_concat real rfl]
    exact member

/-- The place of an error is that of the first token that cannot continue a program: the tokens in
front of it begin one, and whatever follows it, the error is the same. -/
theorem parse_fails_first (ended : Ended tokens)
    (failed : (ofTokens tokens).parse.1 = .error error) :
    ∃ before next behind what, tokens = before ++ next :: behind ∧
      error = .expected what next.kind next.location ∧
      (∃ rest rules, Ended (before ++ rest) ∧ (ofTokens (before ++ rest)).parse.1 = .ok rules) ∧
      ∀ rest, (ofTokens (before ++ next :: rest)).parse.1 = .error error := by
  obtain ⟨failure, read, rfl⟩ := parse_eq_error.mp failed
  obtain ⟨count, result, stops, -, taken⟩ :=
    Parser.tracks_program (s := ofTokens tokens) (t := ofTokens tokens)
  obtain ⟨what, rfl, rfl⟩ := stops.error_of_eq read
  obtain ⟨before, next, behind, rfl, leads⟩ := exists_leadsTo ended count
  obtain ⟨front, kind, location⟩ := leads.drop_ofTokens behind
  refine ⟨before, next, behind, what, rfl, ?_, ?_, fun rest => ?_⟩
  · rw [ParseFailure.error, kind, location]
  · exact exists_parse_of_beginnings (front ▸ taken) leads.1
  · -- on the other list the parser stops at the same place
    obtain ⟨other, result, stops, same, -⟩ := Parser.tracks_program
      (s := ofTokens (before ++ next :: behind)) (t := ofTokens (before ++ next :: rest))
    obtain ⟨whatToo, rfl, stopped⟩ := stops.error_of_eq read
    obtain ⟨rfl, left⟩ := (ParseFailure.mk.injEq _ _ _ _).mp stopped
    have leadsToo := leads.congr left.symm
    obtain ⟨-, kindToo, locationToo⟩ := leadsToo.drop_ofTokens rest
    refine parse_eq_error.mpr ⟨_, same (leadsToo.agrees behind rest), ?_⟩
    simp only [ParseFailure.error, kind, location, kindToo, locationToo]

theorem parse_fails_first_noCondition :
    let rule : List Token := [⟨.keyword .when, ⟨0, 1, 1⟩⟩, ⟨.keyword .then_, ⟨5, 1, 6⟩⟩,
      ⟨.keyword .exit, ⟨10, 1, 11⟩⟩, ⟨.keyword .done, ⟨15, 1, 16⟩⟩]
    ∃ before next behind what, rule ++ [⟨.endOfInput, ⟨19, 1, 20⟩⟩] = before ++ next :: behind ∧
      CompileError.expected .value (.keyword .then_) ⟨5, 1, 6⟩ =
        .expected what next.kind next.location ∧
      (∃ rest rules, Ended (before ++ rest) ∧ (ofTokens (before ++ rest)).parse.1 = .ok rules) ∧
      ∀ rest, (ofTokens (before ++ next :: rest)).parse.1 =
        .error (.expected .value (.keyword .then_) ⟨5, 1, 6⟩) :=
  parse_fails_first ⟨_, _, rfl, by decide, rfl⟩ rfl

end TokenStream

end ScoringRules
