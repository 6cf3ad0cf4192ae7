import ScoringRules.Proofs.Machine.Effect

/-!
When an instruction fails. Its operands and the length of the code decide it, whatever the machine
holds and whatever the variables are: the first operand that does not serve in its role is to
blame, or else the target of a jump, be the jump taken or not.
-/

namespace ScoringRules

/-- The error of a result that is one. -/
def failure? : Except ε α → Option ε
  | .ok _ => none
  | .error error => some error

theorem failure?_eq_some_iff {result : Except ε α} {error : ε} :
    failure? result = some error ↔ result = .error error := by
  cases result <;> simp [failure?]

theorem failure?_eq_none_iff {result : Except ε α} :
    failure? result = none ↔ ∃ value, result = .ok value := by
  cases result <;> simp [failure?]

/-- If what stands behind fails in one way or not at all, the front decides first. -/
theorem failure?_bind {result : Except ε α} {rest : α → Except ε β} {later : Option ε}
    (each : ∀ value, failure? (rest value) = later) :
    failure? (result >>= rest) = (failure? result).or later := by
  cases result with
  | ok value => exact each value
  | error error => rfl

theorem failure?_map (result : Except ε α) (f : α → β) :
    failure? (do return f (← result)) = failure? result := by
  cases result <;> rfl

theorem failure?_both (first : Except ε α) (second : Except ε β) (join : α → β → γ) :
    failure? (do
      let a ← first
      let b ← second
      return join a b) = (failure? first).or (failure? second) :=
  failure?_bind fun a => failure?_map second (join a)

def Role.kinds : Role → List OperandKind
  | comparable => [.int, .score, .string, .var]
  | number => [.int, .score]
  | text => [.string, .var]
  | pattern => [.regex]
  | register => [.scratch]
  | target => [.position]
  | score => [.score]

namespace Operation

def leftRole? : Operation → Option Role
  | .noop | .exit => none
  | .isEqual | .isNotEqual => some .comparable
  | .isGreater | .isGreaterOrEqual | .isLess | .isLessOrEqual => some .number
  | .contains | .doesNotContain | .matches_ | .doesNotMatch => some .text
  | .jumpIfFalse | .jumpIfTrue | .negate => some .register
  | .addScore | .subScore | .setScore => some .score

/-- The role of the right operand; in an equality it is that of the left one. -/
def rightRole? (left : Option OperandKind) : Operation → Option Role
  | .noop | .exit | .negate => none
  | .isEqual | .isNotEqual =>
    if left = some .int ∨ left = some .score then some .number else some .text
  | .isGreater | .isGreaterOrEqual | .isLess | .isLessOrEqual => some .number
  | .contains | .doesNotContain => some .text
  | .matches_ | .doesNotMatch => some .pattern
  | .jumpIfFalse | .jumpIfTrue => some .target
  | .addScore | .subScore | .setScore => some .number

end Operation

namespace RuntimeError

def atIndex (index : Nat) : RuntimeError → RuntimeError
  | invalidOperand operation expected found _ => .invalidOperand operation expected found index
  | jumpOutOfRange target length _ => .jumpOutOfRange target length index

end RuntimeError

namespace Instruction

def misfit? (operation : Operation) (index : Nat) (role? : Option Role)
    (operand : Option Operand) : Option RuntimeError :=
  let found := operand.map Operand.kind
  match role? with
  | some role =>
    if found ∈ role.kinds.map some then none else some (.invalidOperand operation role found index)
  | none => none

def outOfRange? (length index : Nat) : Option Operand → Option RuntimeError
  | some (.position target) =>
    if target ≤ length then none else some (.jumpOutOfRange target length index)
  | _ => none

def fault? (length index : Nat) (instruction : Instruction) : Option RuntimeError :=
  let operation := instruction.operation
  let misfit := misfit? operation index
  (misfit operation.leftRole? instruction.left).or
    ((misfit (operation.rightRole? (instruction.left.map Operand.kind)) instruction.right).or
      (if operation.isJump then outOfRange? length index instruction.right else none))

theorem misfit?_atIndex (operation : Operation) (index other : Nat) (role? : Option Role)
    (operand : Option Operand) :
    misfit? operation other role? operand =
      (misfit? operation index role? operand).map (RuntimeError.atIndex other) := by
  cases role? with
  | none => rfl
  | some role =>
    unfold misfit?
    dsimp only
    split <;> rfl

theorem outOfRange?_atIndex (length index other : Nat) (operand : Option Operand) :
    outOfRange? length other operand =
      (outOfRange? length index operand).map (RuntimeError.atIndex other) := by
  unfold outOfRange?
  split
  · split <;> rfl
  · rfl

theorem fault?_straight {length index : Nat} {instruction : Instruction}
    (straight : instruction.operation.isJump = false) :
    instruction.fault? length index =
      (misfit? instruction.operation index instruction.operation.leftRole? instruction.left).or
        (misfit? instruction.operation index
          (instruction.operation.rightRole? (instruction.left.map Operand.kind))
          instruction.right) := by
  simp [fault?, straight]

theorem fault?_atIndex (length index other : Nat) (instruction : Instruction) :
    instruction.fault? length other =
      (instruction.fault? length index).map (RuntimeError.atIndex other) := by
  unfold fault?
  dsimp only
  rw [misfit?_atIndex _ index other, misfit?_atIndex _ index other,
    outOfRange?_atIndex length index other, Option.map_or, Option.map_or]
  split <;> rfl

end Instruction

namespace Machine

open Instruction (misfit? outOfRange?)

section Operands

variable (machine : Machine) (operation : Operation)

theorem failure?_intOperand (operand : Option Operand) :
    failure? (machine.intOperand operation operand) =
      misfit? operation machine.pc (some .number) operand := by
  rcases operand with _ | operand
  · rfl
  · cases operand <;> rfl

theorem failure?_stringOperand (vars : Variables) (operand : Option Operand) :
    failure? (machine.stringOperand operation vars operand) =
      misfit? operation machine.pc (some .text) operand := by
  rcases operand with _ | operand
  · rfl
  · cases operand <;> rfl

theorem failure?_regexOperand (operand : Option Operand) :
    failure? (machine.regexOperand operation operand) =
      misfit? operation machine.pc (some .pattern) operand := by
  rcases operand with _ | operand
  · rfl
  · cases operand <;> rfl

theorem failure?_scratchOperand (operand : Option Operand) :
    failure? (machine.scratchOperand operation operand) =
      misfit? operation machine.pc (some .register) operand := by
  rcases operand with _ | operand
  · rfl
  · cases operand <;> rfl

theorem failure?_scoreOperand (operand : Option Operand) :
    failure? (machine.scoreOperand operation operand) =
      misfit? operation machine.pc (some .score) operand := by
  rcases operand with _ | operand
  · rfl
  · cases operand <;> rfl

theorem failure?_positionOperand (length : Nat) (operand : Option Operand) :
    failure? (machine.positionOperand operation length operand) =
      (misfit? operation machine.pc (some .target) operand).or
        (outOfRange? length machine.pc operand) := by
  rcases operand with _ | operand
  · rfl
  · cases operand with
    | position target =>
      unfold positionOperand outOfRange?
      dsimp only
      split <;> rfl
    | _ => rfl

theorem failure?_areEqual (vars : Variables) (left right : Option Operand) :
    failure? (machine.areEqual operation vars left right) =
      (misfit? operation machine.pc (some .comparable) left).or
        (misfit? operation machine.pc
          (Operation.rightRole? (left.map Operand.kind) .isEqual) right) := by
  have numbers := fun left => (failure?_both (machine.intOperand operation left)
    (machine.intOperand operation right) fun a b => decide (a = b)).trans
      (congrArg _ (failure?_intOperand machine operation right))
  have texts := fun left => (failure?_both (machine.stringOperand operation vars left)
    (machine.stringOperand operation vars right) fun a b => decide (a = b)).trans
      (congrArg _ (failure?_stringOperand machine operation vars right))
  rcases left with _ | left
  · rfl
  · cases left with
    | int value => exact numbers (some (.int value))
    | score name => exact numbers (some (.score name))
    | string text => exact texts (some (.string text))
    | var name => exact texts (some (.var name))
    | regex | scratch | position => rfl

end Operands

theorem failure?_execute (env : Environment) (machine : Machine) (instruction : Instruction) :
    failure? (machine.execute env instruction) = instruction.fault? env.length machine.pc := by
  obtain ⟨operation, ret, left, right⟩ := instruction
  have numbers := fun test : Int64 → Int64 → Bool => failure?_both
    (machine.intOperand operation left) (machine.intOperand operation right)
    fun a b => (machine.writeRegister ret (test a b), Flow.proceed)
  have texts := fun test : String → String → Bool => failure?_both
    (machine.stringOperand operation env.vars left)
    (machine.stringOperand operation env.vars right)
    fun text part => (machine.writeRegister ret (test text part), Flow.proceed)
  have matching := fun wanted => failure?_both
    (machine.stringOperand operation env.vars left) (machine.regexOperand operation right)
    fun text pattern =>
      (machine.writeRegister ret (env.isMatch pattern text == wanted), Flow.proceed)
  have change := fun result : String → Int64 → Machine × Flow => failure?_both
    (machine.scoreOperand operation left) (machine.intOperand operation right) result
  simp only [failure?_intOperand, failure?_stringOperand, failure?_regexOperand,
    failure?_scoreOperand] at numbers texts matching change
  cases operation
  case noop | exit => rfl
  case jumpIfFalse | jumpIfTrue =>
    refine (failure?_bind fun value => failure?_map _ _).trans ?_
    rw [failure?_scratchOperand, failure?_positionOperand]
    rfl
  all_goals rw [Instruction.fault?_straight rfl]
  case isEqual | isNotEqual => exact (failure?_map _ _).trans (failure?_areEqual machine _ _ _ _)
  case negate =>
    exact (failure?_map _ _).trans ((failure?_scratchOperand machine _ left).trans
      Option.or_none.symm)
  case isGreater | isGreaterOrEqual | isLess | isLessOrEqual => exact numbers _
  case contains | doesNotContain => exact texts _
  case matches_ | doesNotMatch => exact matching _
  case setScore | addScore | subScore => exact change _

end Machine

namespace Code

/-- In code of one length an instruction succeeds on every machine and for all variables, or it
fails on all of them with one error. The target of a jump is checked even if the jump is not
taken. -/
theorem instruction_fails_alike (length : Nat) (instruction : Instruction)
    (first second : Machine) (vars varsToo : Variables)
    (isMatch isMatchToo : (pattern text : String) → Bool) :
    ((∃ next flow, first.execute ⟨length, vars, isMatch⟩ instruction = .ok (next, flow)) ∧
        (∃ next flow,
          second.execute ⟨length, varsToo, isMatchToo⟩ instruction = .ok (next, flow)) ∨
      ∃ error : RuntimeError,
        first.execute ⟨length, vars, isMatch⟩ instruction = .error (error.atIndex first.pc) ∧
        second.execute ⟨length, varsToo, isMatchToo⟩ instruction =
          .error (error.atIndex second.pc)) ∧
    ∀ wanted ret tested target,
      first.execute ⟨length, vars, isMatch⟩ (.jump (.jumpOn wanted) ret tested target) =
        let taken := first.readRegister tested == wanted
        if target ≤ length then
          .ok (if taken then ({ first.writeRegister ret taken with pc := target }, .jumped)
            else (first.writeRegister ret taken, .proceed))
        else .error (.jumpOutOfRange target length first.pc) := by
  refine ⟨?_, Machine.execute_jump_eq_ite _ first⟩
  have failsFirst := Machine.failure?_execute ⟨length, vars, isMatch⟩ first instruction
  have failsSecond := Machine.failure?_execute ⟨length, varsToo, isMatchToo⟩ second instruction
  rw [Instruction.fault?_atIndex length 0] at failsFirst failsSecond
  cases fault : instruction.fault? length 0 with
  | none =>
    rw [fault, Option.map_none, failure?_eq_none_iff] at failsFirst failsSecond
    obtain ⟨⟨next, flow⟩, done⟩ := failsFirst
    obtain ⟨⟨nextToo, flowToo⟩, doneToo⟩ := failsSecond
    exact .inl ⟨⟨next, flow, done⟩, nextToo, flowToo, doneToo⟩
  | some error =>
    rw [fault, Option.map_some, failure?_eq_some_iff] at failsFirst failsSecond
    exact .inr ⟨error, failsFirst, failsSecond⟩

end Code

end ScoringRules
