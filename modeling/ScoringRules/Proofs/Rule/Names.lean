import ScoringRules.Proofs.Rule.Grammar
import ScoringRules.Proofs.Rule.Induction

/-!
The names of variables and scores in rules. Each of them is a word in every phrase for the rules.
-/

namespace ScoringRules

def Value.names : Value → List String
  | var name | score name => [name]
  | string _ | int _ | regex _ _ => []

def Amount.names : Amount → List String
  | int _ => []
  | score name => [name]

mutual

def Condition.names : Condition → List String
  | .scalar left _ right => left.names ++ right.names
  | .list left _ members => left.names ++ members.flatMap Value.names
  | .nested clauses => clauseNames clauses

def clauseNames : List (List Condition) → List String
  | [] => []
  | first :: rest => conditionNames first ++ clauseNames rest

def conditionNames : List Condition → List String
  | [] => []
  | first :: rest => first.names ++ conditionNames rest

end

mutual

def Statement.names : Statement → List String
  | .rule condition consequences => clauseNames condition ++ statementNames consequences
  | .change score _ amount => score :: amount.names
  | .exit => []

def statementNames : List Statement → List String
  | [] => []
  | first :: rest => first.names ++ statementNames rest

end

theorem conditionNames_eq_flatMap (conditions : List Condition) :
    conditionNames conditions = conditions.flatMap Condition.names := by
  induction conditions with
  | nil => simp [conditionNames]
  | cons first rest ih => simp [conditionNames, ih]

theorem clauseNames_eq_flatMap (clauses : Expression) :
    clauseNames clauses = clauses.flatMap fun clause => clause.flatMap Condition.names := by
  induction clauses with
  | nil => simp [clauseNames]
  | cons first rest ih => simp [clauseNames, ih, conditionNames_eq_flatMap]

theorem statementNames_eq_flatMap (statements : List Statement) :
    statementNames statements = statements.flatMap Statement.names := by
  induction statements with
  | nil => simp [statementNames]
  | cons first rest ih => simp [statementNames, ih]

/-- Each of the names is a word in all these phrases. -/
def Words (phrases : Language Token) (names : List String) : Prop :=
  ∀ phrase ∈ phrases, names ⊆ phrase.filterMap fun token => token.kind.name?

namespace Words

variable {first second : Language Token} {early late : List String}

theorem none (phrases : Language Token) : Words phrases [] :=
  fun _ _ => List.nil_subset _

theorem mul (wordsFirst : Words first early) (wordsSecond : Words second late) :
    Words (first * second) (early ++ late) := by
  intro phrase member
  obtain ⟨a, memberFirst, b, memberSecond, rfl⟩ := Language.mem_mul.mp member
  rw [List.filterMap_append]
  exact List.append_subset.mpr
    ⟨List.subset_append_of_subset_left _ (wordsFirst a memberFirst),
      List.subset_append_of_subset_right _ (wordsSecond b memberSecond)⟩

theorem behind (words : Words second late) : Words (first * second) late :=
  (none first).mul words

theorem ahead (words : Words first early) : Words (first * second) early := by
  have both := words.mul (none second)
  rwa [List.append_nil] at both

theorem name (text : String) : Words (Grammar.name text) [text] := by
  have word : Words (Grammar.word text) [text] := by
    rintro phrase ⟨location, rfl | ⟨keyword, rfl, rfl⟩⟩ <;> exact List.Subset.refl _
  exact word.behind.ahead

theorem scoreName (score : String) : Words (Grammar.scoreName score) [score] :=
  (name score).behind

section Items

variable {items : List α} {phrases : α → Language Token} {names : α → List String}
  (each : ∀ item ∈ items, Words (phrases item) (names item))

include each

theorem prod : Words (items.map phrases).prod (items.flatMap names) := by
  induction items with
  | nil => exact none _
  | cons first rest ih =>
    obtain ⟨eachFirst, eachRest⟩ := List.forall_mem_cons.mp each
    exact eachFirst.mul (ih eachRest)

theorem joined (separator : Language Token) :
    Words (Grammar.joined separator (items.map phrases)) (items.flatMap names) := by
  cases items with
  | nil => exact none _
  | cons first rest =>
    obtain ⟨eachFirst, eachRest⟩ := List.forall_mem_cons.mp each
    rw [List.map_cons, Grammar.joined, List.map_map, List.flatMap_cons]
    exact eachFirst.mul (prod fun item member => (eachRest item member).behind)

end Items

theorem value (a : Value) : Words a.phrases a.names := by
  cases a with
  | var text => exact (name text).behind
  | score text => exact scoreName text
  | string | int | regex => exact none _

theorem amount (a : Amount) : Words a.phrases a.names := by
  cases a with
  | int value => exact none _
  | score text => exact scoreName text

theorem expression_of_each {clauses : Expression}
    (each : ∀ clause ∈ clauses, ∀ condition ∈ clause, Words condition.phrases condition.names) :
    Words (Grammar.expression clauses) (clauseNames clauses) := by
  rw [clauseNames_eq_flatMap]
  exact joined (fun clause inside => joined (each clause inside) _) _

theorem condition (a : Condition) : Words a.phrases a.names := by
  induction a using Condition.induction with
  | scalar left cmp right =>
    rw [Condition.phrases, Condition.names]
    exact (value left).ahead.mul (value right)
  | list left negated members =>
    rw [Condition.phrases, Condition.names]
    exact ((value left).ahead.ahead.ahead.mul
      (joined (fun member _ => value member) _)).ahead
  | nested clauses ih =>
    rw [Grammar.phrases_nested, Condition.names]
    exact (expression_of_each ih).behind.ahead

theorem statement (a : Statement) : Words a.phrases a.names := by
  induction a using Statement.induction with
  | rule tree consequences ih =>
    have tested : Words (Grammar.expression tree) (clauseNames tree) :=
      expression_of_each fun _ _ member _ => condition member
    rw [Grammar.phrases_rule, Statement.names, statementNames_eq_flatMap]
    exact (tested.behind.ahead.mul (prod ih)).ahead
  | change score op amount =>
    rw [Statement.phrases, Statement.names]
    exact (scoreName score).ahead.mul (Words.amount amount)
  | exit => exact none _

theorem statements (rules : List Statement) :
    Words (Grammar.statements rules) (statementNames rules) := by
  rw [statementNames_eq_flatMap]
  exact prod fun tree _ => statement tree

end Words

end ScoringRules
