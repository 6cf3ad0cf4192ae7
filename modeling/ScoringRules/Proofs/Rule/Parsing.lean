import ScoringRules.Proofs.Rule.Reading
import ScoringRules.Rule.Parser

/-!
The parser accepts exactly the grammar.
-/

namespace ScoringRules

open TokenStream

namespace Parser

variable {s t : TokenStream}

@[simp] theorem name_eq_ok {word : String} :
    name s = .ok (word, t) ↔ s.Over (Grammar.name word) t := by
  unfold name Grammar.name
  rw [bind_eq_ok, mul_assoc, over_mul]
  simp only [exists_const, symbol_eq_ok]
  refine exists_congr fun opened => and_congr_right fun _ => ?_
  rw [bind_peek]
  cases named : opened.kind.name? with
  | none => simp [named]
  | some found => simp [named, and_comm]

@[simp] theorem scoreName_eq_ok {score : String} :
    scoreName s = .ok (score, t) ↔ s.Over (Grammar.scoreName score) t := by
  unfold scoreName Grammar.scoreName
  simp

@[simp] theorem value_eq_ok {a : Value} : value s = .ok (a, t) ↔ s.Over a.phrases t := by
  unfold value
  rw [bind_get]
  cases next : s.kind with
  | keyword word =>
    cases word <;> cases a <;> simp [Value.phrases, Grammar.scoreName, next]
  | _ => cases a <;> simp [Value.phrases, Grammar.scoreName, next]

@[simp] theorem comparison_eq_ok {a : Comparison} :
    comparison s = .ok (a, t) ↔ s.Over a.phrases t := by
  unfold comparison
  rw [bind_peek]
  cases next : s.kind with
  | symbol mark => cases mark <;> cases a <;> simp [Comparison.phrases, next]
  | keyword word =>
    cases word with
    | does =>
      simp only [bind_pure_comp, bind_advance, bind_eq_ok, keyword_eq_ok, over_keyword, bind_peek,
        existsAndEq, and_true, exists_const]
      cases behind : s.tail.tail.kind with
      | keyword word =>
        cases word <;> cases a <;> simp [Comparison.phrases, next, behind]
      | _ => cases a <;> simp [Comparison.phrases, next, behind]
    | _ => cases a <;> simp [Comparison.phrases, next]
  | _ => cases a <;> simp [Comparison.phrases, next]

@[simp] theorem scoreOp_eq_ok {a : ScoreOp} : scoreOp s = .ok (a, t) ↔ s.Over a.phrases t := by
  unfold scoreOp
  rw [bind_peek]
  cases next : s.kind with
  | symbol mark => cases mark <;> cases a <;> simp [ScoreOp.phrases, next]
  | _ => cases a <;> simp [ScoreOp.phrases, next]

@[simp] theorem amount_eq_ok {a : Amount} : amount s = .ok (a, t) ↔ s.Over a.phrases t := by
  unfold amount
  rw [bind_peek]
  cases next : s.kind with
  | keyword word => cases word <;> cases a <;> simp [Amount.phrases, Grammar.scoreName, next]
  | _ => cases a <;> simp [Amount.phrases, Grammar.scoreName, next]

theorem reads_value (size : Nat) : Reads value Value.phrases (fun _ => True) size := by
  intro s t a _
  simp

theorem reads_values (size : Nat) : Reads (sepBy1 (.symbol .comma) value)
    (fun values => Grammar.joined (Grammar.symbol .comma) (values.map Value.phrases))
    (fun kind => kind ≠ .symbol .comma ∧ True) size :=
  (reads_value size).sepBy1 (by simp) trivial

@[simp] theorem members_eq_ok {a : List Value} : members s = .ok (a, t) ↔
    s.Over (Grammar.symbol .leftBracket * Grammar.joined (Grammar.symbol .comma)
      (a.map Value.phrases) * Grammar.symbol .rightBracket) t := by
  unfold members
  simp only [bind_eq_ok, symbol_eq_ok, exists_const, mul_assoc, over_mul, pure_eq_ok]
  refine exists_congr fun opened => and_congr_right fun _ => ?_
  constructor
  · rintro ⟨values, behind, read, last, closed, rfl, rfl⟩
    exact ⟨behind, ((reads_values _ (Nat.le_refl _)).mp read).1, closed⟩
  · rintro ⟨behind, spans, closed⟩
    have other : behind.kind ≠ .symbol .comma := by
      rw [(over_symbol.mp closed).1]
      simp
    exact ⟨a, behind, (reads_values _ (Nat.le_refl _)).mpr ⟨spans, other, trivial⟩, t, closed,
      rfl, rfl⟩

theorem starts_value {a : Value} (spans : s.Over a.phrases t) : s.kind ≠ .symbol .leftParen := by
  cases a <;> simp [Value.phrases, Grammar.scoreName] at spans <;> simp [spans]

theorem starts_comparison {a : Comparison} (spans : s.Over a.phrases t) :
    s.kind ≠ .keyword .not ∧ s.kind ≠ .keyword .in_ := by
  cases a <;> simp [Comparison.phrases] at spans <;> simp [spans]

theorem scalar_eq_ok (left : Value) {a : Condition} :
    (do return .scalar left (← comparison) (← value) : Parser Condition) s = .ok (a, t) ↔
      ∃ cmp right, a = .scalar left cmp right ∧ s.Over (cmp.phrases * right.phrases) t := by
  simp only [bind_eq_ok, comparison_eq_ok, value_eq_ok, pure_eq_ok, over_mul]
  constructor
  · rintro ⟨cmp, behind, overCmp, right, last, overRight, rfl, rfl⟩
    exact ⟨cmp, right, rfl, behind, overCmp, overRight⟩
  · rintro ⟨cmp, right, rfl, behind, overCmp, overRight⟩
    exact ⟨cmp, behind, overCmp, right, t, overRight, rfl, rfl⟩

theorem list_eq_ok {left : Value} {negated : Bool} {a : Condition} :
    (do return .list left negated (← members) : Parser Condition) s = .ok (a, t) ↔
      ∃ values, a = .list left negated values ∧ s.Over (Grammar.symbol .leftBracket *
        Grammar.joined (Grammar.symbol .comma) (values.map Value.phrases) *
          Grammar.symbol .rightBracket) t := by
  simp only [bind_eq_ok, members_eq_ok, pure_eq_ok]
  constructor
  · rintro ⟨values, last, overValues, rfl, rfl⟩
    exact ⟨values, rfl, overValues⟩
  · rintro ⟨values, rfl, overValues⟩
    exact ⟨values, t, overValues, rfl, rfl⟩

theorem comparisonOrList_eq_ok {a : Condition} : comparisonOrList s = .ok (a, t) ↔
    s.kind ≠ .symbol .leftParen ∧ s.Over a.phrases t := by
  unfold comparisonOrList
  rw [bind_eq_ok]
  constructor
  · rintro ⟨left, middle, read, rest⟩
    have spans := value_eq_ok.mp read
    refine ⟨starts_value spans, ?_⟩
    have scalar (compared : (do return .scalar left (← comparison) (← value) : Parser Condition)
        middle = .ok (a, t)) : s.Over a.phrases t := by
      obtain ⟨cmp, right, rfl, overRest⟩ := (scalar_eq_ok left).mp compared
      rw [Condition.phrases, mul_assoc, over_mul]
      exact ⟨middle, spans, overRest⟩
    rw [bind_peek] at rest
    cases next : middle.kind with
    | keyword word =>
      rw [next] at rest
      cases word with
      | not =>
        dsimp only at rest
        rw [bind_advance, bind_eq_ok] at rest
        obtain ⟨_, behind, overIn, rest⟩ := rest
        obtain ⟨values, rfl, overValues⟩ := list_eq_ok.mp rest
        simp only [Condition.phrases, if_true, mul_assoc, over_mul] at overValues ⊢
        exact ⟨middle, spans, middle.tail, over_keyword.mpr ⟨next, rfl⟩, behind,
          keyword_eq_ok.mp overIn, overValues⟩
      | in_ =>
        dsimp only at rest
        rw [bind_advance] at rest
        obtain ⟨values, rfl, overValues⟩ := list_eq_ok.mp rest
        simp only [Condition.phrases, Bool.false_eq_true, if_false, mul_assoc, one_mul,
          over_mul] at overValues ⊢
        exact ⟨middle, spans, middle.tail, over_keyword.mpr ⟨next, rfl⟩, overValues⟩
      | _ => exact scalar rest
    | _ =>
      rw [next] at rest
      exact scalar rest
  · rintro ⟨other, spans⟩
    cases a with
    | scalar left cmp right =>
      rw [Condition.phrases, mul_assoc, over_mul] at spans
      obtain ⟨middle, overLeft, overRest⟩ := spans
      refine ⟨left, middle, value_eq_ok.mpr overLeft, ?_⟩
      have compared := (scalar_eq_ok left).mpr ⟨cmp, right, rfl, overRest⟩
      obtain ⟨behind, overCmp, -⟩ := over_mul.mp overRest
      obtain ⟨notNot, notIn⟩ := starts_comparison overCmp
      rw [bind_peek]
      cases next : middle.kind with
      | keyword word =>
        cases word with
        | not => exact absurd next notNot
        | in_ => exact absurd next notIn
        | _ => exact compared
      | _ => exact compared
    | list left negated values =>
      cases negated with
      | true =>
        simp only [Condition.phrases, if_true, mul_assoc, over_mul] at spans
        obtain ⟨middle, overLeft, _, overNot, behind, overIn, overValues⟩ := spans
        obtain ⟨next, rfl⟩ := over_keyword.mp overNot
        refine ⟨left, middle, value_eq_ok.mpr overLeft, ?_⟩
        rw [bind_peek, next]
        dsimp only
        rw [bind_advance, bind_eq_ok]
        refine ⟨(), behind, keyword_eq_ok.mpr overIn, list_eq_ok.mpr ⟨values, rfl, ?_⟩⟩
        simpa only [mul_assoc, over_mul] using overValues
      | false =>
        simp only [Condition.phrases, Bool.false_eq_true, if_false, mul_assoc, one_mul,
          over_mul] at spans
        obtain ⟨middle, overLeft, _, overIn, overValues⟩ := spans
        obtain ⟨next, rfl⟩ := over_keyword.mp overIn
        refine ⟨left, middle, value_eq_ok.mpr overLeft, ?_⟩
        rw [bind_peek, next]
        dsimp only
        rw [bind_advance]
        refine list_eq_ok.mpr ⟨values, rfl, ?_⟩
        simpa only [mul_assoc, over_mul] using overValues
    | nested clauses =>
      simp only [Condition.phrases, mul_assoc, over_mul, over_symbol] at spans
      obtain ⟨_, ⟨opened, -⟩, -⟩ := spans
      exact absurd opened other

theorem reads_expressionOf {parser : Parser Condition} {size : Nat}
    (reads : Reads parser Condition.phrases (fun _ => True) size) :
    Reads (expressionOf parser) Grammar.expression
      (fun kind => kind ≠ .keyword .or ∧ kind ≠ .keyword .and ∧ True) size :=
  (reads.sepBy1 (by simp) trivial).sepBy1 (by simp) ⟨by simp, trivial⟩

theorem nested_of_opened {a : Condition} (opened : s.kind = .symbol .leftParen)
    (spans : s.Over a.phrases t) : ∃ clauses, a = .nested clauses := by
  cases a with
  | scalar left cmp right =>
    simp only [Condition.phrases, mul_assoc, over_mul] at spans
    obtain ⟨_, overLeft, -⟩ := spans
    exact absurd opened (starts_value overLeft)
  | list left negated values =>
    simp only [Condition.phrases, mul_assoc, over_mul] at spans
    obtain ⟨_, overLeft, -⟩ := spans
    exact absurd opened (starts_value overLeft)
  | nested clauses => exact ⟨clauses, rfl⟩

theorem reads_condition (depth : Nat) :
    Reads (condition depth) Condition.phrases (fun _ => True) depth := by
  induction depth with
  | zero =>
    intro s t a small
    have nothing := kind_of_length_le_zero small
    rw [condition, comparisonOrList_eq_ok]
    simp [nothing]
  | succ depth ih =>
    intro s t a small
    rw [condition, bind_peek]
    by_cases opened : s.kind = .symbol .leftParen
    · have fewer := length_tail_of_kind (by simp) opened
      rw [if_pos opened, bind_advance, bind_eq_ok]
      constructor
      · rintro ⟨clauses, behind, read, rest⟩
        simp only [bind_eq_ok, symbol_eq_ok, pure_eq_ok] at rest
        obtain ⟨-, last, closed, rfl, rfl⟩ := rest
        simp only [Grammar.phrases_nested, mul_assoc, over_mul]
        refine ⟨⟨s.tail, over_symbol.mpr ⟨opened, rfl⟩, behind, ?_, closed⟩, trivial⟩
        exact ((reads_expressionOf ih (by omega)).mp read).1
      · rintro ⟨spans, -⟩
        obtain ⟨clauses, rfl⟩ := nested_of_opened opened spans
        simp only [Grammar.phrases_nested, mul_assoc, over_mul, over_symbol] at spans
        obtain ⟨_, ⟨-, rfl⟩, behind, overClauses, closed⟩ := spans
        have follow : behind.kind ≠ .keyword .or ∧ behind.kind ≠ .keyword .and ∧ True := by
          simp [closed.1]
        refine ⟨clauses, behind, (reads_expressionOf ih (by omega)).mpr ⟨overClauses, follow⟩, ?_⟩
        simp [closed]
    · rw [if_neg opened]
      simp [comparisonOrList_eq_ok, opened]

theorem reads_expression (size : Nat) : Reads expression Grammar.expression
    (fun kind => kind ≠ .keyword .or ∧ kind ≠ .keyword .and ∧ True) size := by
  intro s t a _
  unfold expression
  rw [bind_get]
  exact reads_expressionOf (reads_condition s.bound) s.length_le_bound

theorem scoreChange_eq_ok {a : Statement} : scoreChange s = .ok (a, t) ↔
    s.kind = .keyword .score ∧ s.Over a.phrases t := by
  unfold scoreChange
  constructor
  · intro read
    simp only [bind_eq_ok, scoreName_eq_ok, scoreOp_eq_ok, amount_eq_ok, pure_eq_ok] at read
    obtain ⟨score, named, overName, op, behind, overOp, amount, last, overAmount, rfl, rfl⟩ := read
    constructor
    · simp only [Grammar.scoreName, over_mul, over_keyword] at overName
      obtain ⟨_, ⟨next, -⟩, -⟩ := overName
      exact next
    · simp only [Statement.phrases, mul_assoc, over_mul]
      exact ⟨named, overName, behind, overOp, overAmount⟩
  · rintro ⟨next, spans⟩
    cases a with
    | rule condition consequences =>
      simp [Statement.phrases, mul_assoc, next] at spans
    | change score op amount =>
      simp only [Statement.phrases, mul_assoc, over_mul] at spans
      obtain ⟨named, overName, behind, overOp, overAmount⟩ := spans
      simp only [bind_eq_ok, scoreName_eq_ok, scoreOp_eq_ok, amount_eq_ok, pure_eq_ok]
      exact ⟨score, named, overName, op, behind, overOp, amount, t, overAmount, rfl, rfl⟩
    | exit =>
      simp [Statement.phrases, next] at spans

theorem starts_keyword {word : Keyword} {rest : Language Token}
    (spans : s.Over (Grammar.keyword word * rest) t) :
    s.kind = .keyword word ∧ t.pending.length < s.pending.length := by
  rw [over_mul] at spans
  obtain ⟨middle, first, behind⟩ := spans
  obtain ⟨next, rfl⟩ := over_keyword.mp first
  have fewer := length_tail_of_kind (by simp) next
  have shorter := length_le_of_over behind
  exact ⟨next, by omega⟩

def opening : Statement → Keyword
  | .rule _ _ => .when
  | .change _ _ _ => .score
  | .exit => .exit

theorem starts_statement {a : Statement} (spans : s.Over a.phrases t) :
    s.kind = .keyword (opening a) ∧ t.pending.length < s.pending.length := by
  cases a with
  | rule condition consequences =>
    simp only [Grammar.phrases_rule, mul_assoc] at spans
    exact starts_keyword spans
  | change score op amount =>
    simp only [Statement.phrases, Grammar.scoreName, mul_assoc] at spans
    exact starts_keyword spans
  | exit =>
    rw [Statement.phrases, ← mul_one (Grammar.keyword .exit)] at spans
    exact starts_keyword spans

theorem opening_eq {word : Keyword} (next : s.kind = .keyword word) {a : Statement}
    (spans : s.Over a.phrases t) : opening a = word := by
  have starts := (starts_statement spans).1
  rw [next] at starts
  exact (TokenKind.keyword.inj starts).symm

def EndsRule (kind : TokenKind) : Prop :=
  kind = .keyword .done ∨ kind = .endOfInput

instance : DecidablePred EndsRule :=
  fun _ => inferInstanceAs (Decidable (_ ∨ _))

theorem consequences_eq_ok {parser : Parser Statement} {size limit : Nat}
    (reads : Reads parser Statement.phrases (fun _ => True) size) {items : List Statement}
    (short : s.pending.length ≤ limit) (small : s.pending.length ≤ size) :
    consequences parser limit s = .ok (items, t) ↔
      s.Over (Grammar.statements items) t ∧ EndsRule t.kind := by
  refine Reads.repeated EndsRule reads ?_ (.inr rfl) rfl (fun limit => rfl) short small
  intro a s t spans
  obtain ⟨starts, shorter⟩ := starts_statement spans
  refine ⟨?_, shorter⟩
  rw [starts]
  cases a <;> simp [EndsRule, opening]

theorem rule_eq_ok {depth : Nat}
    (reads : Reads (statement depth) Statement.phrases (fun _ => True) depth)
    (next : s.kind = .keyword .when) (small : s.pending.length ≤ depth + 1) {a : Statement} :
    statement (depth + 1) s = .ok (a, t) ↔ s.Over a.phrases t := by
  have fewer := length_tail_of_kind (by simp) next
  unfold statement
  rw [bind_peek, next]
  constructor
  · intro read
    simp only [bind_advance, bind_eq_ok, bind_get, keyword_eq_ok, pure_eq_ok] at read
    obtain ⟨condition, tested, readCondition, _, inside, overThen, statements, behind,
      readStatements, _, last, overDone, rfl, rfl⟩ := read
    have overCondition := ((reads_expression _ (Nat.le_refl _)).mp readCondition).1
    have shorterCondition := length_le_of_over overCondition
    have shorterThen := length_le_of_over overThen
    have overStatements :=
      ((consequences_eq_ok reads inside.length_le_bound (by omega)).mp readStatements).1
    simp only [Grammar.phrases_rule, mul_assoc, over_mul]
    exact ⟨s.tail, over_keyword.mpr ⟨next, rfl⟩, tested, overCondition, inside, overThen,
      behind, overStatements, overDone⟩
  · intro spans
    have opens := opening_eq next spans
    cases a with
    | change | exit => cases opens
    | rule condition consequences =>
      simp only [Grammar.phrases_rule, mul_assoc, over_mul] at spans
      obtain ⟨_, overWhen, tested, overCondition, inside, overThen, behind, overStatements,
        overDone⟩ := spans
      obtain ⟨-, rfl⟩ := over_keyword.mp overWhen
      have shorterCondition := length_le_of_over overCondition
      have shorterThen := length_le_of_over overThen
      have follow : tested.kind ≠ .keyword .or ∧ tested.kind ≠ .keyword .and ∧ True := by
        rw [(over_keyword.mp overThen).1]
        simp
      simp only [bind_advance, bind_eq_ok, bind_get, keyword_eq_ok, pure_eq_ok]
      refine ⟨condition, tested, ?_, (), inside, overThen, consequences, behind, ?_, (), t,
        overDone, rfl, rfl⟩
      · exact (reads_expression _ (Nat.le_refl _)).mpr ⟨overCondition, follow⟩
      · exact (consequences_eq_ok reads inside.length_le_bound (by omega)).mpr
          ⟨overStatements, .inl (over_keyword.mp overDone).1⟩

theorem exit_eq_ok {depth : Nat} (next : s.kind = .keyword .exit) {a : Statement} :
    statement (depth + 1) s = .ok (a, t) ↔ s.Over a.phrases t := by
  unfold statement
  rw [bind_peek, next]
  change (pure .exit : Parser Statement) s.tail = _ ↔ _
  rw [pure_eq_ok]
  constructor
  · rintro ⟨rfl, rfl⟩
    exact over_keyword.mpr ⟨next, rfl⟩
  · intro spans
    have opens := opening_eq next spans
    cases a with
    | rule | change => cases opens
    | exit => exact ⟨rfl, (over_keyword.mp spans).2⟩

theorem reads_statement (depth : Nat) :
    Reads (statement depth) Statement.phrases (fun _ => True) depth := by
  induction depth with
  | zero =>
    intro s t a small
    constructor
    · exact fun read => absurd read not_fail_eq_ok
    · rintro ⟨spans, -⟩
      have shorter := (starts_statement spans).2
      omega
  | succ depth ih =>
    intro s t a small
    rw [and_iff_left trivial]
    -- no statement starts with a token that the parser refuses
    have refused (other : ∀ b : Statement, s.kind ≠ .keyword (opening b))
        (fails : statement (depth + 1) s = fail .statement s) :
        statement (depth + 1) s = .ok (a, t) ↔ s.Over a.phrases t := by
      rw [fails]
      exact iff_of_false not_fail_eq_ok fun spans => other a (starts_statement spans).1
    cases next : s.kind with
    | keyword word =>
      cases word with
      | when => exact rule_eq_ok ih next small
      | score =>
        unfold statement
        rw [bind_peek, next, scoreChange_eq_ok, and_iff_right next]
      | exit => exact exit_eq_ok next
      | _ =>
        refine refused (fun b => ?_) (by rw [statement, bind_peek, next])
        cases b <;> simp [opening, next]
    | _ =>
      refine refused (fun b => ?_) (by rw [statement, bind_peek, next])
      simp [next]

theorem program_eq_ok {limit : Nat} {items : List Statement} (short : s.pending.length ≤ limit) :
    program limit s = .ok (items, t) ↔
      s.Over (Grammar.statements items) t ∧ t.kind = .endOfInput := by
  have reads : Reads (do statement (← get).bound) Statement.phrases (fun _ => True)
      s.pending.length := by
    intro s t a _
    rw [bind_get]
    exact reads_statement s.bound s.length_le_bound
  refine Reads.repeated (fun kind => kind = .endOfInput) reads ?_ rfl rfl (fun limit => rfl)
    short (Nat.le_refl _)
  intro a s t spans
  obtain ⟨starts, shorter⟩ := starts_statement spans
  refine ⟨fun finished => ?_, shorter⟩
  simp [finished] at starts

end Parser

namespace TokenStream

theorem ofTokens_concat {tokens : List Token} {finish : Token}
    (inside : ∀ token ∈ tokens, token.kind ≠ .endOfInput) (ends : finish.kind = .endOfInput) :
    (ofTokens (tokens ++ [finish])).pending = tokens := by
  change (tokens ++ [finish]).takeWhile _ = tokens
  rw [List.takeWhile_append_of_pos (by simpa using inside),
    List.takeWhile_cons_of_neg (by simp [ends]), List.append_nil]

variable {stream : TokenStream} {rules : List Statement}

theorem over_end {phrases : Language Token} (member : stream.pending ∈ phrases) :
    stream.Over phrases (stream.drop stream.pending.length) := by
  refine ⟨stream.pending, member, ?_, rfl, rfl⟩
  change _ = _ ++ stream.pending.drop stream.pending.length
  rw [List.drop_length, List.append_nil]

theorem parse_of_mem (member : stream.pending ∈ Grammar.statements rules) :
    stream.parse.1 = .ok rules := by
  have finished : (stream.drop stream.pending.length).kind = .endOfInput :=
    kind_of_nil List.drop_length
  have read := (Parser.program_eq_ok stream.length_le_bound).mpr ⟨over_end member, finished⟩
  rw [parse, read]

theorem mem_of_parse (inside : ∀ token ∈ stream.pending, token.kind ≠ .endOfInput)
    (parsed : stream.parse.1 = .ok rules) : stream.pending ∈ Grammar.statements rules := by
  unfold parse at parsed
  split at parsed
  · rename_i statements last read
    obtain rfl := Except.ok.inj parsed
    obtain ⟨⟨phrase, member, pending, -⟩, finished⟩ :=
      (Parser.program_eq_ok stream.length_le_bound).mp read
    have nothing : last.pending = [] := by
      cases rest : last.pending with
      | nil => rfl
      | cons token others =>
        have absent := inside token (by rw [pending, rest]; simp)
        rw [kind, rest] at finished
        exact absurd finished absent
    rwa [pending, nothing, List.append_nil]
  · cases parsed

/-- The parser accepts exactly the phrases of the grammar, and no two programs share a phrase. -/
theorem parse_eq_ok_iff :
    (∀ (tokens : List Token) (finish : Token), (∀ token ∈ tokens, token.kind ≠ .endOfInput) →
      finish.kind = .endOfInput → ∀ rules : List Statement,
        (ofTokens (tokens ++ [finish])).parse.1 = .ok rules ↔
          tokens ∈ Grammar.statements rules) ∧
    ∀ (tokens : List Token) (rules others : List Statement),
      tokens ∈ Grammar.statements rules → tokens ∈ Grammar.statements others → rules = others := by
  constructor
  · intro tokens finish inside ends rules
    have pending := ofTokens_concat inside ends
    constructor
    · intro parsed
      rw [← pending] at inside ⊢
      exact mem_of_parse inside parsed
    · intro member
      rw [← pending] at member
      exact parse_of_mem member
  · intro tokens rules others first second
    have parsed : ∀ {rules : List Statement}, tokens ∈ Grammar.statements rules →
        (⟨tokens, .nowhere, tokens.length, Nat.le_refl _⟩ : TokenStream).parse.1 = .ok rules :=
      fun member => parse_of_mem member
    exact Except.ok.inj ((parsed first).symm.trans (parsed second))

theorem parse_eq_ok_iff_keywordName :
    let tokens : List Token := [⟨.keyword .when, ⟨0, 1, 1⟩⟩, ⟨.keyword .score, ⟨5, 1, 6⟩⟩,
      ⟨.symbol .leftParen, ⟨10, 1, 11⟩⟩, ⟨.keyword .or, ⟨11, 1, 12⟩⟩,
      ⟨.symbol .rightParen, ⟨13, 1, 14⟩⟩, ⟨.symbol .less, ⟨15, 1, 16⟩⟩, ⟨.integer 2, ⟨17, 1, 18⟩⟩,
      ⟨.keyword .then_, ⟨19, 1, 20⟩⟩, ⟨.keyword .exit, ⟨24, 1, 25⟩⟩,
      ⟨.keyword .done, ⟨29, 1, 30⟩⟩]
    tokens ∈ Grammar.statements [.rule [[.scalar (.score "or") .less (.int 2)]] [.exit]] :=
  (parse_eq_ok_iff.1 _ ⟨.endOfInput, ⟨33, 1, 34⟩⟩ (by decide) rfl _).mp rfl

end TokenStream

end ScoringRules
