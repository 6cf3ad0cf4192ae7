import ScoringRules.Proofs.Code.Translation
import ScoringRules.Proofs.Rule.Grammar
import ScoringRules.Proofs.Token.Reading

/-!
Rules whose text stands elsewhere. Only the places of patterns change in their trees, and code does
not depend on them.
-/

namespace ScoringRules

def Value.relocate (f : Location → Location) : Value → Value
  | regex pattern location => regex pattern (f location)
  | value => value

section Trees

variable (f : Location → Location)

mutual

def Condition.relocate : Condition → Condition
  | .scalar left cmp right => .scalar (left.relocate f) cmp (right.relocate f)
  | .list left negated members =>
    .list (left.relocate f) negated (members.map (Value.relocate f))
  | .nested clauses => .nested (relocateClauses clauses)

def relocateClauses : List (List Condition) → List (List Condition)
  | [] => []
  | first :: rest => relocateConditions first :: relocateClauses rest

def relocateConditions : List Condition → List Condition
  | [] => []
  | first :: rest => first.relocate :: relocateConditions rest

end

theorem relocateConditions_eq_map (conditions : List Condition) :
    relocateConditions f conditions = conditions.map (Condition.relocate f) := by
  induction conditions with
  | nil => simp [relocateConditions]
  | cons first rest ih => simp [relocateConditions, ih]

theorem relocateClauses_eq_map (clauses : Expression) :
    relocateClauses f clauses = clauses.map fun clause => clause.map (Condition.relocate f) := by
  induction clauses with
  | nil => simp [relocateClauses]
  | cons first rest ih => simp [relocateClauses, ih, relocateConditions_eq_map]

theorem Condition.relocate_nested (clauses : Expression) : (Condition.nested clauses).relocate f =
    .nested (clauses.map fun clause => clause.map (Condition.relocate f)) := by
  rw [Condition.relocate, relocateClauses_eq_map]

mutual

def Statement.relocate : Statement → Statement
  | .rule condition consequences =>
    .rule (condition.map fun clause => clause.map (Condition.relocate f))
      (relocateStatements consequences)
  | .change score op amount => .change score op amount
  | .exit => .exit

def relocateStatements : List Statement → List Statement
  | [] => []
  | first :: rest => first.relocate :: relocateStatements rest

end

theorem relocateStatements_eq_map (statements : List Statement) :
    relocateStatements f statements = statements.map (Statement.relocate f) := by
  induction statements with
  | nil => simp [relocateStatements]
  | cons first rest ih => simp [relocateStatements, ih]

end Trees

/-- With other places, the phrases of a node are phrases of the relocated node. -/
def Relocates (f : Location → Location) (phrases moved : Language Token) : Prop :=
  ∀ phrase ∈ phrases, phrase.map (Token.relocate f) ∈ moved

namespace Relocates

variable {f : Location → Location} {first second movedFirst movedSecond : Language Token}

theorem mul (relocatesFirst : Relocates f first movedFirst)
    (relocatesSecond : Relocates f second movedSecond) :
    Relocates f (first * second) (movedFirst * movedSecond) := by
  intro phrase member
  obtain ⟨a, memberFirst, b, memberSecond, rfl⟩ := Language.mem_mul.mp member
  rw [List.map_append]
  exact Language.append_mem_mul (relocatesFirst a memberFirst) (relocatesSecond b memberSecond)

theorem one : Relocates f 1 1 := by
  rintro phrase rfl
  rfl

theorem token (kind : TokenKind) : Relocates f (Grammar.token kind) (Grammar.token kind) := by
  rintro phrase ⟨location, rfl⟩
  exact ⟨f location, rfl⟩

theorem keyword (word : Keyword) : Relocates f (Grammar.keyword word) (Grammar.keyword word) :=
  token _

theorem symbol (mark : Symbol) : Relocates f (Grammar.symbol mark) (Grammar.symbol mark) :=
  token _

theorem name (name : String) : Relocates f (Grammar.name name) (Grammar.name name) := by
  have word : Relocates f (Grammar.word name) (Grammar.word name) := by
    rintro phrase ⟨location, rfl | ⟨keyword, named, rfl⟩⟩
    · exact ⟨f location, .inl rfl⟩
    · exact ⟨f location, .inr ⟨keyword, named, rfl⟩⟩
  exact ((symbol _).mul word).mul (symbol _)

theorem scoreName (score : String) :
    Relocates f (Grammar.scoreName score) (Grammar.scoreName score) :=
  (keyword _).mul (name score)

section Items

variable {items : List α} {phrases moved : α → Language Token}

theorem prod (each : ∀ item ∈ items, Relocates f (phrases item) (moved item)) :
    Relocates f (items.map phrases).prod (items.map moved).prod := by
  induction items with
  | nil => exact one
  | cons first rest ih =>
    obtain ⟨eachFirst, eachRest⟩ := List.forall_mem_cons.mp each
    exact eachFirst.mul (ih eachRest)

theorem joined {separator : Language Token} (plain : Relocates f separator separator)
    (each : ∀ item ∈ items, Relocates f (phrases item) (moved item)) :
    Relocates f (Grammar.joined separator (items.map phrases))
      (Grammar.joined separator (items.map moved)) := by
  cases items with
  | nil => exact fun phrase member => member.elim
  | cons first rest =>
    obtain ⟨eachFirst, eachRest⟩ := List.forall_mem_cons.mp each
    rw [List.map_cons, List.map_cons, Grammar.joined, Grammar.joined, List.map_map, List.map_map]
    exact eachFirst.mul (prod fun item member => plain.mul (eachRest item member))

end Items

theorem value (a : Value) : Relocates f a.phrases (a.relocate f).phrases := by
  cases a with
  | var text => exact (keyword _).mul (name text)
  | string text => exact token _
  | int value => exact token _
  | score text => exact scoreName text
  | regex pattern location =>
    rintro phrase rfl
    rfl

theorem comparison (a : Comparison) : Relocates f a.phrases a.phrases := by
  cases a with
  | doesNotContain | doesNotMatch => exact ((keyword _).mul (keyword _)).mul (keyword _)
  | contains | matches_ => exact keyword _
  | _ => exact symbol _

theorem expression_of_each {clauses : Expression}
    (each : ∀ clause ∈ clauses, ∀ condition ∈ clause,
      Relocates f condition.phrases (condition.relocate f).phrases) :
    Relocates f (Grammar.expression clauses)
      (Grammar.expression (clauses.map fun clause => clause.map (Condition.relocate f))) := by
  rw [Grammar.expression, Grammar.expression, List.map_map]
  refine joined (keyword _) fun clause member => ?_
  rw [Function.comp_apply, Grammar.clause, Grammar.clause, List.map_map]
  exact joined (keyword _) (each clause member)

theorem condition (a : Condition) : Relocates f a.phrases (a.relocate f).phrases := by
  induction a using Condition.induction with
  | scalar left cmp right =>
    rw [Condition.relocate, Condition.phrases, Condition.phrases]
    exact ((value left).mul (comparison cmp)).mul (value right)
  | list left negated members =>
    have negation : Relocates f (if negated then Grammar.keyword .not else 1)
        (if negated then Grammar.keyword .not else 1) := by
      cases negated
      · exact one
      · exact keyword _
    rw [Condition.relocate, Condition.phrases, Condition.phrases, List.map_map]
    exact (((((value left).mul negation).mul (keyword _)).mul (symbol _)).mul
      (joined (symbol _) fun member _ => value member)).mul (symbol _)
  | nested clauses ih =>
    rw [Condition.relocate_nested, Grammar.phrases_nested, Grammar.phrases_nested]
    exact ((symbol _).mul (expression_of_each ih)).mul (symbol _)

theorem statements_of_each {trees : List Statement}
    (each : ∀ tree ∈ trees, Relocates f tree.phrases (tree.relocate f).phrases) :
    Relocates f (Grammar.statements trees)
      (Grammar.statements (trees.map (Statement.relocate f))) := by
  rw [Grammar.statements, Grammar.statements, List.map_map]
  exact prod each

theorem statement (a : Statement) : Relocates f a.phrases (a.relocate f).phrases := by
  induction a using Statement.induction with
  | rule tree consequences ih =>
    rw [Statement.relocate, relocateStatements_eq_map, Grammar.phrases_rule, Grammar.phrases_rule]
    exact ((((keyword _).mul (expression_of_each fun _ _ a _ => condition a)).mul (keyword _)).mul
      (statements_of_each ih)).mul (keyword _)
  | change score op amount =>
    have operation : Relocates f op.phrases op.phrases := by cases op <;> exact symbol _
    have amount : Relocates f amount.phrases amount.phrases := by
      cases amount with
      | int value => exact token _
      | score name => exact scoreName name
    rw [Statement.relocate, Statement.phrases]
    exact ((scoreName score).mul operation).mul amount
  | exit =>
    rw [Statement.relocate, Statement.phrases]
    exact keyword _

theorem statements (rules : List Statement) :
    Relocates f (Grammar.statements rules)
      (Grammar.statements (rules.map (Statement.relocate f))) :=
  statements_of_each fun tree _ => statement tree

end Relocates

namespace Block

variable (f : Location → Location)

theorem operand_relocate (value : Value) : (value.relocate f).operand = value.operand := by
  cases value <;> rfl

theorem comparison_relocate (cmp : Comparison) (ret : Register) (left right : Value) :
    comparison cmp ret (left.relocate f) (right.relocate f) = comparison cmp ret left right := by
  simp only [comparison, operand_relocate]

theorem ofCondition_relocate (condition : Condition) :
    ofCondition (condition.relocate f) = ofCondition condition := by
  induction condition using Condition.induction with
  | scalar left cmp right =>
    rw [Condition.relocate, ofCondition, ofCondition]
    simp only [comparison_relocate]
  | list left negated members =>
    rw [Condition.relocate, ofCondition, ofCondition]
    simp only [List.map_map, Function.comp_def, comparison_relocate]
  | nested clauses ih =>
    rw [Condition.relocate_nested, ofCondition_nested, ofCondition_nested, ofExpression,
      ofExpression, List.map_map]
    refine congrArg any (List.map_congr_left fun clause member => ?_)
    rw [Function.comp_apply, ofClause, ofClause, List.map_map]
    exact congrArg all (List.map_congr_left (ih clause member))

theorem ofStatements_relocate_of_each {statements : List Statement} {inUse : Nat}
    (each : ∀ statement ∈ statements,
      ofStatement inUse (statement.relocate f) = ofStatement inUse statement) :
    ofStatements inUse (statements.map (Statement.relocate f)) = ofStatements inUse statements := by
  induction statements with
  | nil => rfl
  | cons first rest ih =>
    obtain ⟨eachFirst, eachRest⟩ := List.forall_mem_cons.mp each
    rw [List.map_cons, ofStatements, ofStatements, eachFirst, ih eachRest]

theorem ofStatement_relocate (inUse : Nat) (statement : Statement) :
    ofStatement inUse (statement.relocate f) = ofStatement inUse statement := by
  induction statement using Statement.induction generalizing inUse with
  | rule condition consequences ih =>
    rw [Statement.relocate, relocateStatements_eq_map, ofStatement, ofStatement,
      ofStatements_relocate_of_each f fun statement member => ih statement member _,
      ← ofCondition_nested, ← Condition.relocate_nested, ofCondition_relocate, ofCondition_nested]
  | change | exit => rw [Statement.relocate]

theorem ofStatements_relocate (inUse : Nat) (statements : List Statement) :
    ofStatements inUse (statements.map (Statement.relocate f)) = ofStatements inUse statements :=
  ofStatements_relocate_of_each f fun statement _ => ofStatement_relocate f inUse statement

end Block

end ScoringRules
