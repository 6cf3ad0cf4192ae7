import ScoringRules.Proofs.Code.Compilation
import ScoringRules.Proofs.Code.Jumps

/-!
Compiled code is no longer than its source, counted in tokens. An instruction for each separator is
not enough for a conjunction, which takes a jump for each of its members and a negation; what makes
up for it is that every condition has two tokens more than instructions.
-/

namespace ScoringRules

/-- No phrase is shorter than this. -/
def Spans (phrases : Language Token) (least : Nat) : Prop :=
  ∀ phrase ∈ phrases, least ≤ phrase.length

namespace Spans

variable {first second : Language Token} {early late : Nat}

theorem none (phrases : Language Token) : Spans phrases 0 :=
  fun _ _ => Nat.zero_le _

theorem le (spans : Spans first early) (below : late ≤ early) : Spans first late :=
  fun phrase member => Nat.le_trans below (spans phrase member)

theorem mul (spansFirst : Spans first early) (spansSecond : Spans second late) :
    Spans (first * second) (early + late) := by
  intro phrase member
  obtain ⟨a, memberFirst, b, memberSecond, rfl⟩ := Language.mem_mul.mp member
  rw [List.length_append]
  exact Nat.add_le_add (spansFirst a memberFirst) (spansSecond b memberSecond)

theorem token (kind : TokenKind) : Spans (Grammar.token kind) 1 := by
  rintro phrase ⟨location, rfl⟩
  exact Nat.le_refl 1

theorem keyword (word : Keyword) : Spans (Grammar.keyword word) 1 :=
  token _

theorem symbol (mark : Symbol) : Spans (Grammar.symbol mark) 1 :=
  token _

section Items

variable {items : List α} {phrases : α → Language Token} {least : α → Nat}
  (each : ∀ item ∈ items, Spans (phrases item) (least item))

include each

theorem prod : Spans (items.map phrases).prod (items.map least).sum := by
  induction items with
  | nil => exact none _
  | cons first rest ih =>
    obtain ⟨eachFirst, eachRest⟩ := List.forall_mem_cons.mp each
    exact eachFirst.mul (ih eachRest)

theorem joined (separator : TokenKind) :
    Spans (Grammar.joined (Grammar.token separator) (items.map phrases))
      ((items.map least).sum + (items.length - 1)) := by
  cases items with
  | nil => exact none _
  | cons first rest =>
    obtain ⟨eachFirst, eachRest⟩ := List.forall_mem_cons.mp each
    have separated : Spans (rest.map fun item => Grammar.token separator * phrases item).prod
        (rest.map fun item => 1 + least item).sum :=
      prod fun item member => (token separator).mul (eachRest item member)
    rw [List.map_cons, Grammar.joined, List.map_map]
    refine (eachFirst.mul separated).le ?_
    rw [List.map_cons, List.sum_cons, List.length_cons, List.sum_map_add, List.map_const',
      List.sum_replicate, smul_eq_mul]
    omega

end Items

theorem value (a : Value) : Spans a.phrases 1 := by
  cases a with
  | var text => exact (keyword .var).mul (none _)
  | score text => exact (keyword .score).mul (none _)
  | string | int => exact token _
  | regex pattern location =>
    rintro phrase rfl
    exact Nat.le_refl 1

theorem comparison (cmp : Comparison) : Spans cmp.phrases 1 := by
  cases cmp with
  | doesNotContain | doesNotMatch => exact ((keyword .does).mul (none _)).mul (none _)
  | _ => exact token _

end Spans

namespace Block

/-- The phrases have two tokens more than the code has instructions. -/
def Affords (phrases : Language Token) (part : Part) : Prop :=
  ∀ inUse ret, Spans phrases ((part inUse ret).size + 2)

theorem size_chain (wanted : Bool) (ret tested : Register) (blocks : List Block) :
    (chain wanted ret tested blocks).size = (blocks.map size).sum + blocks.length := by
  induction blocks with
  | nil => rfl
  | cons first rest ih =>
    change first.size + 1 + (chain wanted ret tested rest).size = _
    rw [ih, List.map_cons, List.sum_cons, List.length_cons]
    omega

theorem size_search (wanted : Bool) (inUse : Nat) (ret : Register) (parts : List Part) :
    (search wanted inUse ret parts).size =
      (parts.map fun part => (part (inUse + 1) (inUse + 1)).size).sum + parts.length := by
  rw [search, size, size_chain, members, List.map_map, List.length_map]
  rfl

theorem affords_singleton {phrases : Language Token} {part : Part} (affords : Affords phrases part)
    (separator : TokenKind) : Affords (Grammar.joined (Grammar.token separator) [phrases]) part := by
  change Affords (phrases * 1) part
  rwa [mul_one]

section Items

variable {items : List α} {phrases : α → Language Token} {part : α → Part}
  (each : ∀ item ∈ items, Affords (phrases item) (part item)) (separator : TokenKind)

include each

theorem spans_search (wanted : Bool) (inUse : Nat) (ret : Register) :
    Spans (Grammar.joined (Grammar.token separator) (items.map phrases))
      ((search wanted inUse ret (items.map part)).size + items.length + (items.length - 1)) := by
  refine (Spans.joined (fun item member => each item member (inUse + 1) (inUse + 1)) separator).le ?_
  rw [size_search, List.map_map, List.length_map, List.sum_map_add, List.map_const',
    List.sum_replicate, smul_eq_mul]
  change (items.map fun item => (part item (inUse + 1) (inUse + 1)).size).sum + _ + _ + _ ≤ _
  omega

theorem affords_any :
    Affords (Grammar.joined (Grammar.token separator) (items.map phrases))
      (any (items.map part)) := by
  match items with
  | [] => exact fun _ _ _ => False.elim
  | [item] => exact affords_singleton (each item (List.mem_singleton_self item)) separator
  | first :: second :: rest =>
    intro inUse ret
    refine (spans_search each separator true inUse ret).le ?_
    change (search true inUse ret ((first :: second :: rest).map part)).size + 2 ≤ _
    rw [List.length_cons, List.length_cons]
    omega

theorem affords_all :
    Affords (Grammar.joined (Grammar.token separator) (items.map phrases))
      (all (items.map part)) := by
  match items with
  | [] => exact fun _ _ _ => False.elim
  | [item] => exact affords_singleton (each item (List.mem_singleton_self item)) separator
  | first :: second :: rest =>
    intro inUse ret
    refine (spans_search each separator false inUse ret).le ?_
    change (search false inUse ret ((first :: second :: rest).map part)).size + 1 + 2 ≤ _
    rw [List.length_cons, List.length_cons]
    omega

end Items

theorem affords_expression_of_each {clauses : Expression}
    (each : ∀ clause ∈ clauses, ∀ condition ∈ clause,
      Affords condition.phrases (ofCondition condition)) :
    Affords (Grammar.expression clauses) (ofExpression clauses) :=
  affords_any (fun clause member => affords_all (each clause member) _) _

theorem affords_condition (condition : Condition) :
    Affords condition.phrases (ofCondition condition) := by
  induction condition using Condition.induction with
  | scalar left cmp right =>
    rw [Condition.phrases, ofCondition]
    exact fun _ _ => ((Spans.value left).mul (Spans.comparison cmp)).mul (Spans.value right)
  | list left negated values =>
    intro inUse ret
    have listed : Spans (Grammar.joined (Grammar.token (.symbol .comma))
        (values.map Value.phrases)) (values.length + (values.length - 1)) := by
      simpa using Spans.joined (fun value (_ : value ∈ values) => Spans.value value) (.symbol .comma)
    have found : (search true inUse ret
        (values.map fun value _ ret => comparison .equal ret left value)).size =
          values.length + values.length := by
      rw [size_search, List.map_map, List.length_map]
      simp [Function.comp_def, comparison, size]
    have sign : Spans (if negated then Grammar.keyword .not else 1)
        (if negated then negation ret else empty).size := by
      cases negated with
      | true => exact Spans.keyword .not
      | false => exact .none _
    rw [Condition.phrases, ofCondition]
    refine ((((((Spans.value left).mul sign).mul (Spans.keyword .in_)).mul
      (Spans.symbol .leftBracket)).mul listed).mul (Spans.symbol .rightBracket)).le ?_
    change (search true inUse ret _).size + (if negated then negation ret else empty).size + 2 ≤ _
    omega
  | nested clauses ih =>
    rw [Grammar.phrases_nested, ofCondition_nested]
    exact fun inUse ret => (((Spans.symbol .leftParen).mul
      (affords_expression_of_each ih inUse ret)).mul (Spans.symbol .rightParen)).le (by omega)

theorem spans_statements_of_each {statements : List Statement} {inUse : Nat}
    (each : ∀ statement ∈ statements, Spans statement.phrases (ofStatement inUse statement).size) :
    Spans (Grammar.statements statements) (ofStatements inUse statements).size := by
  induction statements with
  | nil => exact .none _
  | cons first rest ih =>
    obtain ⟨eachFirst, eachRest⟩ := List.forall_mem_cons.mp each
    exact eachFirst.mul (ih eachRest)

theorem spans_statement (statement : Statement) (inUse : Nat) :
    Spans statement.phrases (ofStatement inUse statement).size := by
  induction statement using Statement.induction generalizing inUse with
  | rule condition consequences ih =>
    have tested : Affords (Grammar.expression condition) (ofExpression condition) :=
      affords_expression_of_each fun _ _ condition _ => affords_condition condition
    have body := spans_statements_of_each fun statement member => ih statement member (inUse + 1)
    rw [Grammar.phrases_rule, ofStatement]
    refine (((((Spans.keyword .when).mul (tested (inUse + 1) (inUse + 1))).mul
      (Spans.keyword .then_)).mul body).mul (Spans.keyword .done)).le ?_
    change (ofExpression condition (inUse + 1) (inUse + 1)).size +
      (1 + (ofStatements (inUse + 1) consequences).size) ≤ _
    omega
  | change score op amount =>
    rw [Statement.phrases, ofStatement]
    exact (((Spans.keyword .score).mul (.none _)).mul (.none _)).mul (.none _)
  | exit =>
    rw [Statement.phrases, ofStatement]
    exact Spans.keyword .exit

end Block

namespace Code

variable {accepts : String → Bool} {source : String} {code : Code}

/-- Compiled code has no more instructions than its source has tokens, the end of input among
them. -/
theorem size_le_of_compile (compiled : compile accepts source = .ok code) :
    ∃ tokens, (Cursor.ofString source).tokenize.1 = .ok tokens ∧ code.size ≤ tokens.length := by
  obtain ⟨tokens, rules, reads, generated⟩ := reads_of_compile compiled
  obtain ⟨-, inner, finish, rfl, -, -, member⟩ := reads_iff.mp reads
  have spans := Block.spans_statements_of_each
    (fun statement (_ : statement ∈ rules) => Block.spans_statement statement 0) inner member
  refine ⟨_, reads.1, ?_⟩
  rw [← Array.length_toList, toList_of_generate generated, List.length_append,
    Block.length_layout, List.length_append]
  exact Nat.add_le_add_right spans 1

theorem size_le_of_compile_conjunction :
    ∃ code, compile (fun _ => true) "when 1 < 2 and 3 < 4 then exit done" = .ok code ∧
      code.size = 8 ∧
      ∃ tokens, (Cursor.ofString "when 1 < 2 and 3 < 4 then exit done").tokenize.1 = .ok tokens ∧
        code.size ≤ tokens.length := by
  have compiled : compile (fun _ => true) "when 1 < 2 and 3 < 4 then exit done" =
      .ok #[.compare .isLess 2 (.int 1) (.int 2), .jump .jumpIfFalse 1 2 4,
        .compare .isLess 2 (.int 3) (.int 4), .jump .jumpIfFalse 1 2 4, .negate 1,
        .jump .jumpIfFalse 0 1 7, .plain .exit, .plain .noop] := by cbv
  exact ⟨_, compiled, rfl, size_le_of_compile compiled⟩

end Code

end ScoringRules
