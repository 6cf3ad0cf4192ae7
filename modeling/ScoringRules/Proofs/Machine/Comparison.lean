import ScoringRules.Proofs.Code.Translation
import ScoringRules.Proofs.Data.General
import ScoringRules.Proofs.Rule.Evaluation

/-!
Execution of comparisons: an instruction for a comparison writes the truth value of the comparison,
or reports its mismatch.
-/

namespace ScoringRules

def Mismatch.error (index : Nat) (mismatch : Mismatch) : RuntimeError :=
  .invalidOperand mismatch.comparison.operation mismatch.expected (some mismatch.found) index

theorem Value.kind_operand (value : Value) : value.operand.kind = value.kind := by
  cases value <;> rfl

namespace Machine

theorem occursIn_eq (needle text : List Char) :
    occursIn needle text = decide (needle <:+: text) := by
  rw [Bool.eq_iff_iff, decide_eq_true_iff]
  induction text with
  | nil => simp [occursIn]
  | cons first rest ih =>
    rw [occursIn, Bool.or_eq_true, ih, List.isPrefixOf_iff_prefix, List.infix_cons_iff]

section Values

variable (machine : Machine) (env : Environment) (cmp : Comparison)

def setting : Setting :=
  ⟨env.vars, machine.scores, env.isMatch⟩

theorem invalid_operand (expected : Role) (value : Value) :
    machine.invalid (α := α) cmp.operation expected (some value.operand) =
      (cmp.mismatch expected value).mapError (Mismatch.error machine.pc) := by
  rw [invalid, Option.map_some, Value.kind_operand]
  rfl

theorem intOperand_operand (value : Value) :
    machine.intOperand cmp.operation (some value.operand) =
      (Comparison.number (machine.setting env) cmp value).mapError
        (Mismatch.error machine.pc) := by
  cases value with
  | int | score => rfl
  | var | string | regex => exact invalid_operand machine cmp .number _

theorem stringOperand_operand (value : Value) :
    machine.stringOperand cmp.operation env.vars (some value.operand) =
      (Comparison.text (machine.setting env) cmp value).mapError (Mismatch.error machine.pc) := by
  cases value with
  | var | string => rfl
  | int | score | regex => exact invalid_operand machine cmp .text _

theorem regexOperand_operand (value : Value) :
    machine.regexOperand cmp.operation (some value.operand) =
      (Comparison.pattern cmp value).mapError (Mismatch.error machine.pc) := by
  cases value with
  | regex => rfl
  | int | score | var | string => exact invalid_operand machine cmp .pattern _

theorem numbers_operand (test : Int64 → Int64 → Bool) (left right : Value) (answer : Bool → α) :
    (do
      let a ← machine.intOperand cmp.operation (some left.operand)
      let b ← machine.intOperand cmp.operation (some right.operand)
      return answer (test a b)) =
    ((cmp.numbers (machine.setting env) test left right).mapError
      (Mismatch.error machine.pc)).map answer := by
  rw [intOperand_operand machine env, intOperand_operand machine env]
  unfold Comparison.numbers
  cases Comparison.number (machine.setting env) cmp left with
  | error => rfl
  | ok a => cases Comparison.number (machine.setting env) cmp right <;> rfl

theorem texts_operand (test : String → String → Bool) (left right : Value) (answer : Bool → α) :
    (do
      let a ← machine.stringOperand cmp.operation env.vars (some left.operand)
      let b ← machine.stringOperand cmp.operation env.vars (some right.operand)
      return answer (test a b)) =
    ((cmp.texts (machine.setting env) test left right).mapError
      (Mismatch.error machine.pc)).map answer := by
  rw [stringOperand_operand, stringOperand_operand]
  unfold Comparison.texts
  cases Comparison.text (machine.setting env) cmp left with
  | error => rfl
  | ok a => cases Comparison.text (machine.setting env) cmp right <;> rfl

theorem matching_operand (left right : Value) (answer : Bool → α) :
    (do
      let text ← machine.stringOperand cmp.operation env.vars (some left.operand)
      let pattern ← machine.regexOperand cmp.operation (some right.operand)
      return answer (env.isMatch pattern text)) =
    ((cmp.matching (machine.setting env) left right).mapError
      (Mismatch.error machine.pc)).map answer := by
  rw [stringOperand_operand, regexOperand_operand]
  unfold Comparison.matching
  cases Comparison.text (machine.setting env) cmp left with
  | error => rfl
  | ok text => cases Comparison.pattern cmp right <;> rfl

theorem areEqual_operand (left right : Value) :
    machine.areEqual cmp.operation env.vars (some left.operand) (some right.operand) =
      (cmp.equality (machine.setting env) left right).mapError (Mismatch.error machine.pc) := by
  have numbers := fun left =>
    numbers_operand machine env cmp (fun a b => decide (a = b)) left right id
  have texts := fun left =>
    texts_operand machine env cmp (fun a b => decide (a = b)) left right id
  simp only [Except.map_id, id] at numbers texts
  cases left with
  | int value => exact numbers (.int value)
  | score name => exact numbers (.score name)
  | string text => exact texts (.string text)
  | var name => exact texts (.var name)
  | regex pattern location => exact invalid_operand machine cmp .comparable _

theorem execute_comparison (ret : Register) (left right : Value) :
    machine.execute env (.compare cmp.operation ret left.operand right.operand) =
      ((cmp.holds (machine.setting env) left right).mapError (Mismatch.error machine.pc)).map
        fun value => (machine.writeRegister ret value, .proceed) := by
  have equality := areEqual_operand machine env cmp left right
  have numbers := fun test => numbers_operand machine env cmp test left right
    fun value => (machine.writeRegister ret value, Flow.proceed)
  have matching := fun wanted => matching_operand machine env cmp left right
    fun value => (machine.writeRegister ret (value == wanted), Flow.proceed)
  cases cmp with
  | greater | greaterOrEqual | less | lessOrEqual => exact numbers _
  | equal =>
    rw [Comparison.holds, ← equality]
    exact bind_pure_comp (fun value => (machine.writeRegister ret value, Flow.proceed)) _
  | notEqual =>
    rw [Comparison.holds, Except.map_mapError_not, ← equality]
    exact bind_pure_comp (fun value => (machine.writeRegister ret !value, Flow.proceed)) _
  | contains =>
    rw [Comparison.holds, Comparison.occurrence]
    simp only [← occursIn_eq]
    exact texts_operand machine env .contains
      (fun whole part => occursIn part.toList whole.toList) left right
      fun value => (machine.writeRegister ret value, Flow.proceed)
  | doesNotContain =>
    rw [Comparison.holds, Except.map_mapError_not, Comparison.occurrence]
    simp only [← occursIn_eq]
    exact texts_operand machine env .doesNotContain
      (fun whole part => occursIn part.toList whole.toList) left right
      fun value => (machine.writeRegister ret !value, Flow.proceed)
  | matches_ => exact (matching true).trans (by simp only [beq_true]; rfl)
  | doesNotMatch =>
    rw [Comparison.holds, Except.map_mapError_not]
    exact (matching false).trans (by simp only [beq_false])

end Values

end Machine

end ScoringRules
