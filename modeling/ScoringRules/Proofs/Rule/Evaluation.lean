import Mathlib.Data.List.Infix
import ScoringRules.Machine.Step
import ScoringRules.Rule.Basic

/-!
What rules mean, without instructions: conditions are evaluated as far as they decide, and
statements change the scores one after the other. A comparison fails on a value of a kind that it
cannot use, and only if it is reached.
-/

namespace ScoringRules

structure Mismatch where
  comparison : Comparison
  expected : Role
  found : OperandKind
  deriving DecidableEq, Repr

structure Setting where
  vars : Variables
  scores : Scores
  isMatch : (pattern text : String) → Bool

def Value.kind : Value → OperandKind
  | var _ => .var
  | string _ => .string
  | int _ => .int
  | score _ => .score
  | regex _ _ => .regex

namespace Comparison

section Values

variable (s : Setting) (comparison : Comparison)

def mismatch (expected : Role) (value : Value) : Except Mismatch α :=
  .error ⟨comparison, expected, value.kind⟩

/-- A score that has not been written counts as zero. -/
def number : Value → Except Mismatch Int64
  | .int value => .ok value
  | .score name => .ok (s.scores.getD name 0)
  | value => comparison.mismatch .number value

/-- A variable that is not bound counts as the empty text. -/
def text : Value → Except Mismatch String
  | .string text => .ok text
  | .var name => .ok (OrderedMap.getD s.vars name "")
  | value => comparison.mismatch .text value

def pattern : Value → Except Mismatch String
  | .regex pattern _ => .ok pattern
  | value => comparison.mismatch .pattern value

def numbers (test : Int64 → Int64 → Bool) (left right : Value) : Except Mismatch Bool := do
  let a ← number s comparison left
  let b ← number s comparison right
  return test a b

def texts (test : String → String → Bool) (left right : Value) : Except Mismatch Bool := do
  let a ← text s comparison left
  let b ← text s comparison right
  return test a b

/-- The kind of the left value decides what is compared. -/
def equality (left right : Value) : Except Mismatch Bool :=
  match left with
  | .int _ | .score _ => comparison.numbers s (fun a b => decide (a = b)) left right
  | .string _ | .var _ => comparison.texts s (fun a b => decide (a = b)) left right
  | .regex _ _ => comparison.mismatch .comparable left

def occurrence (left right : Value) : Except Mismatch Bool :=
  comparison.texts s (fun whole part => decide (part.toList <:+: whole.toList)) left right

def matching (left right : Value) : Except Mismatch Bool := do
  let text ← text s comparison left
  let pattern ← pattern comparison right
  return s.isMatch pattern text

end Values

def holds (s : Setting) (comparison : Comparison) (left right : Value) : Except Mismatch Bool :=
  match comparison with
  | equal => comparison.equality s left right
  | notEqual => return !(← comparison.equality s left right)
  | greater => comparison.numbers s (fun a b => decide (b < a)) left right
  | greaterOrEqual => comparison.numbers s (fun a b => decide (b ≤ a)) left right
  | less => comparison.numbers s (fun a b => decide (a < b)) left right
  | lessOrEqual => comparison.numbers s (fun a b => decide (a ≤ b)) left right
  | contains => comparison.occurrence s left right
  | doesNotContain => return !(← comparison.occurrence s left right)
  | matches_ => comparison.matching s left right
  | doesNotMatch => return !(← comparison.matching s left right)

end Comparison

section Conditions

variable (s : Setting)

/-- Compares with the members from left to right, up to the first hit. -/
def isMember (left : Value) : List Value → Except Mismatch Bool
  | [] => return false
  | first :: rest => do
    if ← Comparison.equal.holds s left first then return true else isMember left rest

mutual

def Condition.holds : Condition → Except Mismatch Bool
  | .scalar left comparison right => comparison.holds s left right
  | .list left negated members => return (← isMember s left members) != negated
  | .nested clauses => expressionHolds clauses

/-- Takes clauses from left to right, up to the first that holds. -/
def expressionHolds : List (List Condition) → Except Mismatch Bool
  | [] => return false
  | first :: rest => do if ← clauseHolds first then return true else expressionHolds rest

def clauseHolds : List Condition → Except Mismatch Bool
  | [] => return true
  | first :: rest => do if ← first.holds then clauseHolds rest else return false

end

end Conditions

/-- Arithmetic wraps around at 64 bits. -/
def ScoreOp.apply : ScoreOp → (old amount : Int64) → Int64
  | set, _, amount => amount
  | add, old, amount => old + amount
  | sub, old, amount => old - amount

def Amount.value (scores : Scores) : Amount → Int64
  | int value => value
  | score name => scores.getD name 0

structure Progress where
  scores : Scores
  exited : Bool

section Statements

variable (vars : Variables) (isMatch : (pattern text : String) → Bool)

mutual

def Statement.evaluate (scores : Scores) : Statement → Except Mismatch Progress
  | .rule condition consequences => do
    if ← expressionHolds ⟨vars, scores, isMatch⟩ condition then evaluateAll scores consequences
    else return ⟨scores, false⟩
  | .change score op amount =>
    return ⟨scores.insert score (op.apply (scores.getD score 0) (amount.value scores)), false⟩
  | .exit => return ⟨scores, true⟩

def evaluateAll (scores : Scores) : List Statement → Except Mismatch Progress
  | [] => return ⟨scores, false⟩
  | first :: rest => do
    let progress ← first.evaluate scores
    if progress.exited then return progress else evaluateAll progress.scores rest

end

/-- The scores that a program gives, or the mismatch at which it fails. -/
def evaluate (rules : List Statement) : Except Mismatch Scores :=
  return (← evaluateAll vars isMatch ∅ rules).scores

end Statements

end ScoringRules
