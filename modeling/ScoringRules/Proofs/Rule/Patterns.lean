import ScoringRules.Proofs.Code.Translation
import ScoringRules.Proofs.Rule.Grammar

/-!
Patterns in a phrase and in its tree: the first pattern that is refused is the same in both, since
code is generated in the order in which the tokens stand.
-/

namespace ScoringRules

def Token.defect? (accepts : String → Bool) (token : Token) : Option CompileError :=
  match token.kind with
  | .regex pattern => if accepts pattern then none else some (.invalidRegex pattern token.location)
  | _ => none

theorem Token.defect?_eq_some_iff {accepts : String → Bool} {token : Token}
    {error : CompileError} :
    token.defect? accepts = some error ↔ ∃ pattern, token.kind = .regex pattern ∧
      accepts pattern = false ∧ .invalidRegex pattern token.location = error := by
  obtain ⟨kind, location⟩ := token
  cases kind with
  | regex pattern => cases accepted : accepts pattern <;> simp [defect?, accepted]
  | _ => simp [defect?]

theorem Token.defect?_eq_none_iff {accepts : String → Bool} {token : Token} :
    token.defect? accepts = none ↔
      ∀ pattern, token.kind = .regex pattern → accepts pattern = true := by
  obtain ⟨kind, location⟩ := token
  cases kind <;> simp [defect?]

/-- The first refused pattern is the same in all these phrases. -/
def Finds (accepts : String → Bool) (phrases : Language Token) (defect : Option CompileError) :
    Prop :=
  ∀ phrase ∈ phrases, phrase.findSome? (Token.defect? accepts) = defect

namespace Finds

variable {accepts : String → Bool} {first second : Language Token}
  {early late : Option CompileError}

theorem mul (findsFirst : Finds accepts first early) (findsSecond : Finds accepts second late) :
    Finds accepts (first * second) (early.or late) := by
  intro phrase member
  obtain ⟨a, memberFirst, b, memberSecond, rfl⟩ := Language.mem_mul.mp member
  rw [List.findSome?_append, findsFirst a memberFirst, findsSecond b memberSecond]

theorem behind (findsFirst : Finds accepts first none) (findsSecond : Finds accepts second late) :
    Finds accepts (first * second) late := by
  have finds := findsFirst.mul findsSecond
  rwa [Option.none_or] at finds

theorem ahead (findsFirst : Finds accepts first early) (findsSecond : Finds accepts second none) :
    Finds accepts (first * second) early := by
  have finds := findsFirst.mul findsSecond
  rwa [Option.or_none] at finds

theorem one : Finds accepts 1 none := by
  rintro phrase rfl
  rfl

theorem token {kind : TokenKind} (plain : ∀ pattern, kind ≠ .regex pattern) :
    Finds accepts (Grammar.token kind) none := by
  rintro phrase ⟨location, rfl⟩
  rw [List.findSome?_singleton, Token.defect?_eq_none_iff]
  exact fun pattern same => absurd same (plain pattern)

theorem keyword (word : Keyword) : Finds accepts (Grammar.keyword word) none :=
  token fun _ => nofun

theorem symbol (mark : Symbol) : Finds accepts (Grammar.symbol mark) none :=
  token fun _ => nofun

theorem name (name : String) : Finds accepts (Grammar.name name) none := by
  have word : Finds accepts (Grammar.word name) none := by
    rintro phrase ⟨location, rfl | ⟨keyword, -, rfl⟩⟩ <;> rfl
  exact ((symbol _).behind word).ahead (symbol _)

theorem scoreName (score : String) : Finds accepts (Grammar.scoreName score) none :=
  (keyword _).behind (name score)

section Items

variable {items : List α} {phrases : α → Language Token} {defect : α → Option CompileError}

theorem prod (each : ∀ item ∈ items, Finds accepts (phrases item) (defect item)) :
    Finds accepts (items.map phrases).prod (items.findSome? defect) := by
  induction items with
  | nil => exact one
  | cons first rest ih =>
    obtain ⟨eachFirst, eachRest⟩ := List.forall_mem_cons.mp each
    rw [List.map_cons, List.prod_cons]
    have finds := eachFirst.mul (ih eachRest)
    rw [List.findSome?_cons]
    cases found : defect first <;> simpa [found] using finds

/-- There is no phrase for an empty node, so its defect is not met. -/
theorem joined {separator : Language Token} (plain : Finds accepts separator none)
    (each : ∀ item ∈ items, Finds accepts (phrases item) (defect item)) (kind : NodeKind) :
    Finds accepts (Grammar.joined separator (items.map phrases))
      (firstDefect? kind (items.map defect)) := by
  cases items with
  | nil => exact fun phrase member => member.elim
  | cons first rest =>
    obtain ⟨eachFirst, eachRest⟩ := List.forall_mem_cons.mp each
    have finds := eachFirst.mul (prod fun item member => plain.behind (eachRest item member))
    rw [List.map_cons, Grammar.joined, List.map_map]
    unfold firstDefect?
    rw [List.findSome?_map, List.findSome?_cons]
    cases found : defect first <;> simpa [found, Function.comp_def] using finds

end Items

theorem value (a : Value) : Finds accepts a.phrases (a.defect? accepts) := by
  cases a with
  | var text => exact (keyword _).behind (name text)
  | string text => exact token fun _ => nofun
  | int value => exact token fun _ => nofun
  | score text => exact scoreName text
  | regex pattern location =>
    rintro phrase rfl
    rw [List.findSome?_singleton]
    rfl

theorem comparison (a : Comparison) : Finds accepts a.phrases none := by
  cases a with
  | doesNotContain | doesNotMatch => exact ((keyword _).ahead (keyword _)).ahead (keyword _)
  | contains | matches_ => exact keyword _
  | _ => exact symbol _

theorem condition (a : Condition) : Finds accepts a.phrases (a.defect? accepts) := by
  induction a using Condition.induction with
  | scalar left cmp right =>
    rw [Condition.phrases, Condition.defect?]
    exact ((value left).ahead (comparison cmp)).mul (value right)
  | list left negated members =>
    rw [Condition.phrases, Condition.defect?]
    have negation : Finds accepts (if negated then Grammar.keyword .not else 1) none := by
      cases negated
      · exact one
      · exact keyword _
    have finds := (((((value left).ahead negation).ahead (keyword .in_)).ahead
      (symbol .leftBracket)).mul (joined (symbol .comma)
        (fun member (_ : member ∈ members) => value member) .list)).ahead (symbol .rightBracket)
    cases members with
    | nil =>
      rintro phrase member
      obtain ⟨_, inside, _, _, -⟩ := Language.mem_mul.mp member
      obtain ⟨_, _, _, nothing, -⟩ := Language.mem_mul.mp inside
      exact nothing.elim
    | cons first rest =>
      rw [firstDefect?, List.findSome?_map] at finds
      exact finds
  | nested clauses ih =>
    rw [Condition.defect?_nested, Grammar.phrases_nested]
    refine ((symbol _).behind (joined (keyword .or) (fun clause member => ?_) .expression)).ahead
      (symbol _)
    exact joined (keyword .and) (ih clause member) .clause

theorem expression (a : Expression) :
    Finds accepts (Grammar.expression a) (expressionDefect? accepts a) :=
  joined (keyword .or)
    (fun _ _ => joined (keyword .and) (fun member _ => condition member) .clause) .expression

theorem statements_of_each {trees : List Statement}
    (each : ∀ tree ∈ trees, Finds accepts tree.phrases (tree.defect? accepts)) :
    Finds accepts (Grammar.statements trees) (statementsDefect? accepts trees) := by
  rw [statementsDefect?_eq_findSome?]
  exact prod each

theorem statement (a : Statement) : Finds accepts a.phrases (a.defect? accepts) := by
  induction a using Statement.induction with
  | rule tree consequences ih =>
    rw [Grammar.phrases_rule, Statement.defect?]
    exact ((((keyword _).behind (expression tree)).ahead (keyword _)).mul
      (statements_of_each ih)).ahead (keyword _)
  | change score op amount =>
    have operation : Finds accepts op.phrases none := by cases op <;> exact symbol _
    have amount : Finds accepts amount.phrases none := by
      cases amount with
      | int value => exact token fun _ => nofun
      | score name => exact scoreName name
    rw [Statement.phrases, Statement.defect?]
    exact ((scoreName score).ahead operation).ahead amount
  | exit =>
    rw [Statement.phrases, Statement.defect?]
    exact keyword _

theorem statements (rules : List Statement) :
    Finds accepts (Grammar.statements rules) (statementsDefect? accepts rules) :=
  statements_of_each fun tree _ => statement tree

end Finds

end ScoringRules
