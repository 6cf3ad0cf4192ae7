import ScoringRules.Proofs.Rule.Evaluation
import ScoringRules.Proofs.Rule.Induction

/-!
Which comparisons can be made at all. The kinds of the two values decide it, whatever the values
are; a condition whose comparisons can all be made is well-kinded.
-/

namespace ScoringRules

namespace Value

def isNumber : Value → Bool
  | int _ | score _ => true
  | _ => false

def isText : Value → Bool
  | string _ | var _ => true
  | _ => false

def isPattern : Value → Bool
  | regex _ _ => true
  | _ => false

end Value

def Comparison.fits (left right : Value) : Comparison → Bool
  | equal | notEqual => left.isNumber && right.isNumber || left.isText && right.isText
  | greater | greaterOrEqual | less | lessOrEqual => left.isNumber && right.isNumber
  | contains | doesNotContain => left.isText && right.isText
  | matches_ | doesNotMatch => left.isText && right.isPattern

namespace Comparison

section Fitting

variable (s : Setting) (cmp : Comparison) {left right : Value}

theorem exists_number {value : Value} (fits : value.isNumber = true) :
    ∃ n, number s cmp value = .ok n := by
  cases value with
  | int n => exact ⟨n, rfl⟩
  | score name => exact ⟨_, rfl⟩
  | var | string | regex => cases fits

theorem exists_text {value : Value} (fits : value.isText = true) :
    ∃ content, text s cmp value = .ok content := by
  cases value with
  | string content => exact ⟨content, rfl⟩
  | var name => exact ⟨_, rfl⟩
  | int | score | regex => cases fits

theorem exists_numbers (fitsLeft : left.isNumber = true) (fitsRight : right.isNumber = true)
    (test : Int64 → Int64 → Bool) : ∃ answer, cmp.numbers s test left right = .ok answer := by
  obtain ⟨a, readLeft⟩ := exists_number s cmp fitsLeft
  obtain ⟨b, readRight⟩ := exists_number s cmp fitsRight
  exact ⟨test a b, by rw [numbers, readLeft, readRight]; rfl⟩

theorem exists_texts (fitsLeft : left.isText = true) (fitsRight : right.isText = true)
    (test : String → String → Bool) : ∃ answer, cmp.texts s test left right = .ok answer := by
  obtain ⟨a, readLeft⟩ := exists_text s cmp fitsLeft
  obtain ⟨b, readRight⟩ := exists_text s cmp fitsRight
  exact ⟨test a b, by rw [texts, readLeft, readRight]; rfl⟩

theorem exists_equality
    (fits : (left.isNumber && right.isNumber || left.isText && right.isText) = true) :
    ∃ answer, cmp.equality s left right = .ok answer := by
  simp only [Bool.or_eq_true, Bool.and_eq_true] at fits
  cases left with
  | int | score =>
    rcases fits with ⟨fitsLeft, fitsRight⟩ | ⟨other, -⟩
    · exact exists_numbers s cmp fitsLeft fitsRight _
    · cases other
  | string | var =>
    rcases fits with ⟨other, -⟩ | ⟨fitsLeft, fitsRight⟩
    · cases other
    · exact exists_texts s cmp fitsLeft fitsRight _
  | regex => simp [Value.isNumber, Value.isText] at fits

theorem exists_matching (fitsLeft : left.isText = true) (fitsRight : right.isPattern = true) :
    ∃ answer, cmp.matching s left right = .ok answer := by
  obtain ⟨content, read⟩ := exists_text s cmp fitsLeft
  cases right with
  | regex source location => exact ⟨s.isMatch source content, by rw [matching, read]; rfl⟩
  | var | string | int | score => cases fitsRight

theorem exists_not {result : Except Mismatch Bool} (done : ∃ answer, result = .ok answer) :
    ∃ answer, (return !(← result) : Except Mismatch Bool) = .ok answer := by
  obtain ⟨answer, rfl⟩ := done
  exact ⟨!answer, rfl⟩

theorem exists_holds (fits : cmp.fits left right = true) :
    ∃ answer, cmp.holds s left right = .ok answer := by
  cases cmp with
  | equal => exact exists_equality s equal fits
  | notEqual => exact exists_not (exists_equality s notEqual fits)
  | greater | greaterOrEqual | less | lessOrEqual =>
    obtain ⟨fitsLeft, fitsRight⟩ := Bool.and_eq_true_iff.mp fits
    exact exists_numbers s _ fitsLeft fitsRight _
  | contains =>
    obtain ⟨fitsLeft, fitsRight⟩ := Bool.and_eq_true_iff.mp fits
    exact exists_texts s contains fitsLeft fitsRight _
  | doesNotContain =>
    obtain ⟨fitsLeft, fitsRight⟩ := Bool.and_eq_true_iff.mp fits
    exact exists_not (exists_texts s doesNotContain fitsLeft fitsRight _)
  | matches_ =>
    obtain ⟨fitsLeft, fitsRight⟩ := Bool.and_eq_true_iff.mp fits
    exact exists_matching s matches_ fitsLeft fitsRight
  | doesNotMatch =>
    obtain ⟨fitsLeft, fitsRight⟩ := Bool.and_eq_true_iff.mp fits
    exact exists_not (exists_matching s doesNotMatch fitsLeft fitsRight)

end Fitting

end Comparison

structure Test where
  condition : Condition
  left : Value
  comparison : Comparison
  right : Value

def Test.fits (test : Test) : Bool :=
  test.comparison.fits test.left test.right

mutual

/-- The comparisons of a condition, in the order of the source. A list compares its left value with
each member. -/
def Condition.tests : Condition → List Test
  | .scalar left cmp right => [⟨.scalar left cmp right, left, cmp, right⟩]
  | .list left negated members =>
    members.map fun member => ⟨.list left negated members, left, .equal, member⟩
  | .nested clauses => clauseTests clauses

def clauseTests : List (List Condition) → List Test
  | [] => []
  | first :: rest => conditionTests first ++ clauseTests rest

def conditionTests : List Condition → List Test
  | [] => []
  | first :: rest => first.tests ++ conditionTests rest

end

theorem conditionTests_eq_flatMap (conditions : List Condition) :
    conditionTests conditions = conditions.flatMap Condition.tests := by
  induction conditions with
  | nil => simp [conditionTests]
  | cons first rest ih => simp [conditionTests, ih]

theorem clauseTests_eq_flatMap (clauses : Expression) :
    clauseTests clauses = clauses.flatMap fun clause => clause.flatMap Condition.tests := by
  induction clauses with
  | nil => simp [clauseTests]
  | cons first rest ih => simp [clauseTests, ih, conditionTests_eq_flatMap]

theorem Condition.tests_nested (clauses : Expression) : (Condition.nested clauses).tests =
    clauses.flatMap fun clause => clause.flatMap Condition.tests := by
  rw [Condition.tests, clauseTests_eq_flatMap]

mutual

def Statement.tests : Statement → List Test
  | .rule condition consequences =>
    (Condition.nested condition).tests ++ statementTests consequences
  | .change _ _ _ | .exit => []

def statementTests : List Statement → List Test
  | [] => []
  | first :: rest => first.tests ++ statementTests rest

end

def Condition.WellKinded (condition : Condition) : Prop :=
  ∀ test ∈ condition.tests, test.fits = true

instance (condition : Condition) : Decidable condition.WellKinded :=
  inferInstanceAs (Decidable (∀ test ∈ condition.tests, test.fits = true))

theorem Condition.mem_tests_condition {condition : Condition} {test : Test}
    (member : test ∈ condition.tests) : test ∈ test.condition.tests := by
  induction condition using Condition.induction with
  | scalar left cmp right =>
    rw [tests, List.mem_singleton] at member
    subst member
    exact List.mem_singleton_self _
  | list left negated members =>
    rw [tests] at member
    obtain ⟨value, inside, rfl⟩ := List.mem_map.mp member
    dsimp only
    rw [tests]
    exact List.mem_map_of_mem inside
  | nested clauses ih =>
    rw [tests_nested] at member
    simp only [List.mem_flatMap] at member
    obtain ⟨clause, inside, condition, within, member⟩ := member
    exact ih clause inside condition within member

theorem mem_tests_of_each {statements : List Statement} {test : Test}
    (each : ∀ statement ∈ statements, test ∈ statement.tests → test ∈ test.condition.tests)
    (member : test ∈ statementTests statements) : test ∈ test.condition.tests := by
  induction statements with
  | nil => exact nomatch member
  | cons first rest ih =>
    obtain ⟨eachFirst, eachRest⟩ := List.forall_mem_cons.mp each
    rw [statementTests, List.mem_append] at member
    exact member.elim eachFirst (ih eachRest)

theorem Statement.mem_tests_condition {statement : Statement} {test : Test}
    (member : test ∈ statement.tests) : test ∈ test.condition.tests := by
  induction statement using Statement.induction with
  | rule condition consequences ih =>
    rw [tests, List.mem_append] at member
    exact member.elim Condition.mem_tests_condition (mem_tests_of_each ih)
  | change | exit =>
    rw [tests] at member
    exact nomatch member

theorem not_wellKinded_of_test {rules : List Statement} {test : Test}
    (member : test ∈ statementTests rules) (misfit : ¬ test.fits = true) :
    ¬ test.condition.WellKinded := fun kinds =>
  misfit (kinds test (mem_tests_of_each (fun _ _ => Statement.mem_tests_condition) member))

end ScoringRules
