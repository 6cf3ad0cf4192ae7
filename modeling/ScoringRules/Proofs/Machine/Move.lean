import ScoringRules.Machine.Step
import ScoringRules.Proofs.Data.General

/-!
What an instruction does when it succeeds, and when a jump is out of range. Whatever the
operation, a machine writes a register or a score, moves to a target, or stays as it is.
-/

namespace ScoringRules

def Operation.isJump : Operation → Bool
  | .jumpIfFalse | .jumpIfTrue => true
  | _ => false

def Operation.jumpOn (wanted : Bool) : Operation :=
  if wanted then .jumpIfTrue else .jumpIfFalse

theorem Operation.eq_jumpOn {operation : Operation} (jumps : operation.isJump = true) :
    ∃ wanted, operation = jumpOn wanted := by
  cases operation <;> simp only [isJump, Bool.false_eq_true] at jumps
  · exact ⟨false, rfl⟩
  · exact ⟨true, rfl⟩

namespace Machine

@[simp] theorem pc_writeRegister (machine : Machine) (register : Register) (value : Bool) :
    (machine.writeRegister register value).pc = machine.pc := by
  unfold writeRegister
  split <;> rfl

@[simp] theorem scores_writeRegister (machine : Machine) (register : Register) (value : Bool) :
    (machine.writeRegister register value).scores = machine.scores := by
  unfold writeRegister
  split <;> rfl

theorem readRegister_writeRegister (machine : Machine) (register : Register) (value : Bool)
    (positive : register ≠ 0) :
    (machine.writeRegister register value).readRegister register = value := by
  simp [readRegister, writeRegister, positive, OrderedMap.getD]

/-- The ways in which an instruction can succeed. -/
inductive Moves (env : Environment) (machine : Machine) (instruction : Instruction) :
    Machine → Flow → Prop where
  | idle (noop : instruction.operation = .noop) : Moves env machine instruction machine .proceed
  | halt (exit : instruction.operation = .exit) : Moves env machine instruction machine .halted
  | write (value : Bool) :
      Moves env machine instruction (machine.writeRegister instruction.ret value) .proceed
  | jump (target : Nat) (jumps : instruction.operation.isJump = true)
      (leads : instruction.right = some (.position target)) (inside : target ≤ env.length) :
      Moves env machine instruction
        { machine.writeRegister instruction.ret true with pc := target } .jumped
  | change (name : String) (value : Int64) (changes : instruction.left = some (.score name)) :
      Moves env machine instruction (machine.writeScore name value) .proceed

theorem scoreOperand_eq_ok {machine : Machine} {operation : Operation} {operand : Option Operand}
    {name : String} (read : machine.scoreOperand operation operand = .ok name) :
    operand = some (.score name) := by
  unfold scoreOperand at read
  split at read
  · cases read
    rfl
  · exact nomatch read

theorem positionOperand_eq_ok {machine : Machine} {operation : Operation} {length target : Nat}
    {operand : Option Operand}
    (read : machine.positionOperand operation length operand = .ok target) :
    operand = some (.position target) ∧ target ≤ length := by
  unfold positionOperand at read
  split at read
  · split at read
    · rename_i inside
      cases read
      exact ⟨rfl, inside⟩
    · exact nomatch read
  · exact nomatch read

theorem execute_jump (env : Environment) (machine : Machine) (wanted : Bool)
    (ret : Register) (left right : Option Operand) :
    machine.execute env ⟨.jumpOn wanted, ret, left, right⟩ = (do
      let value ← machine.scratchOperand (.jumpOn wanted) left
      let target ← machine.positionOperand (.jumpOn wanted) env.length right
      let written := machine.writeRegister ret (value == wanted)
      return if value == wanted then ({ written with pc := target }, .jumped)
        else (written, .proceed)) := by
  cases wanted <;> rfl

/-- The target is in range or not before the register is asked whether to jump. -/
theorem execute_jump_eq_ite (env : Environment) (machine : Machine) (wanted : Bool)
    (ret tested : Register) (target : Nat) :
    machine.execute env (.jump (.jumpOn wanted) ret tested target) =
      let taken := machine.readRegister tested == wanted
      if target ≤ env.length then
        .ok (if taken then ({ machine.writeRegister ret taken with pc := target }, .jumped)
          else (machine.writeRegister ret taken, .proceed))
      else .error (.jumpOutOfRange target env.length machine.pc) := by
  unfold Instruction.jump
  rw [execute_jump]
  unfold scratchOperand positionOperand
  dsimp only
  split <;> rfl

theorem execute_moves {env : Environment} {machine next : Machine} {instruction : Instruction}
    {flow : Flow} (done : machine.execute env instruction = .ok (next, flow)) :
    Moves env machine instruction next flow := by
  by_cases jumps : instruction.operation.isJump = true
  · obtain ⟨operation, ret, left, right⟩ := instruction
    obtain ⟨wanted, rfl⟩ := Operation.eq_jumpOn jumps
    rw [execute_jump] at done
    obtain ⟨value, -, done⟩ := Except.bind_eq_ok.mp done
    obtain ⟨target, aimed, done⟩ := Except.bind_eq_ok.mp done
    obtain ⟨leads, inside⟩ := positionOperand_eq_ok aimed
    cases taken : value == wanted <;> rw [taken] at done <;> cases done
    · exact .write false
    · exact .jump target jumps leads inside
  · unfold execute at done
    cases operation : instruction.operation <;>
      simp only [operation, Operation.isJump, Bool.false_eq_true, not_true_eq_false,
        not_false_eq_true, Except.bind_eq_ok, pure, Except.pure, Except.ok.injEq,
        Prod.mk.injEq] at done jumps
    case noop =>
      obtain ⟨rfl, rfl⟩ := done
      exact .idle operation
    case exit =>
      obtain ⟨rfl, rfl⟩ := done
      exact .halt operation
    case setScore | addScore | subScore =>
      obtain ⟨name, named, _, -, rfl, rfl⟩ := done
      exact .change name _ (scoreOperand_eq_ok named)
    case isEqual | isNotEqual | negate =>
      obtain ⟨_, -, rfl, rfl⟩ := done
      exact .write _
    all_goals
      obtain ⟨_, -, _, -, rfl, rfl⟩ := done
      exact .write _

section Failure

variable (machine : Machine) (operation : Operation)

/-- A failure is that of an operand of this operation, at the machine's place. -/
def Blames (result : Except RuntimeError α) : Prop :=
  ∀ error, result = .error error →
    ∃ expected found, error = .invalidOperand operation expected found machine.pc

variable {machine operation}

theorem Blames.ok (value : α) : Blames machine operation (.ok value) :=
  fun _ failed => nomatch failed

theorem Blames.bind {result : Except RuntimeError α} {next : α → Except RuntimeError β}
    (first : Blames machine operation result) (rest : ∀ a, Blames machine operation (next a)) :
    Blames machine operation (result >>= next) := by
  intro error failed
  rcases Except.bind_eq_error.mp failed with early | ⟨a, -, late⟩
  · exact first error early
  · exact rest a error late

theorem blames_invalid (expected : Role) (found : Option Operand) :
    Blames machine operation (machine.invalid (α := α) operation expected found) := by
  intro error failed
  cases failed
  exact ⟨expected, _, rfl⟩

theorem blames_intOperand (operand : Option Operand) :
    Blames machine operation (machine.intOperand operation operand) := by
  unfold intOperand
  split
  · exact .ok _
  · exact .ok _
  · exact blames_invalid _ _

theorem blames_stringOperand (vars : Variables) (operand : Option Operand) :
    Blames machine operation (machine.stringOperand operation vars operand) := by
  unfold stringOperand
  split
  · exact .ok _
  · exact .ok _
  · exact blames_invalid _ _

theorem blames_regexOperand (operand : Option Operand) :
    Blames machine operation (machine.regexOperand operation operand) := by
  unfold regexOperand
  split
  · exact .ok _
  · exact blames_invalid _ _

theorem blames_scratchOperand (operand : Option Operand) :
    Blames machine operation (machine.scratchOperand operation operand) := by
  unfold scratchOperand
  split
  · exact .ok _
  · exact blames_invalid _ _

theorem blames_scoreOperand (operand : Option Operand) :
    Blames machine operation (machine.scoreOperand operation operand) := by
  unfold scoreOperand
  split
  · exact .ok _
  · exact blames_invalid _ _

theorem blames_areEqual (vars : Variables) (left right : Option Operand) :
    Blames machine operation (machine.areEqual operation vars left right) := by
  unfold areEqual
  split
  iterate 2
    exact .bind (blames_intOperand _) fun _ => .bind (blames_intOperand _) fun _ => .ok _
  iterate 2
    exact .bind (blames_stringOperand _ _) fun _ => .bind (blames_stringOperand _ _) fun _ => .ok _
  exact blames_invalid _ _

end Failure

theorem blames_execute (env : Environment) (machine : Machine) (instruction : Instruction)
    (straight : instruction.operation.isJump = false) :
    Blames machine instruction.operation (machine.execute env instruction) := by
  obtain ⟨operation, ret, left, right⟩ := instruction
  cases operation <;> simp only [Operation.isJump, Bool.true_eq_false] at straight
  case noop | exit => exact .ok _
  case isEqual | isNotEqual => exact .bind (blames_areEqual _ _ _) fun _ => .ok _
  case negate => exact .bind (blames_scratchOperand _) fun _ => .ok _
  case setScore | addScore | subScore =>
    exact .bind (blames_scoreOperand _) fun _ => .bind (blames_intOperand _) fun _ => .ok _
  case contains | doesNotContain =>
    exact .bind (blames_stringOperand _ _) fun _ => .bind (blames_stringOperand _ _) fun _ => .ok _
  case matches_ | doesNotMatch =>
    exact .bind (blames_stringOperand _ _) fun _ => .bind (blames_regexOperand _) fun _ => .ok _
  all_goals
    exact .bind (blames_intOperand _) fun _ => .bind (blames_intOperand _) fun _ => .ok _

theorem execute_eq_error {env : Environment} {machine : Machine} {instruction : Instruction}
    {error : RuntimeError} (failed : machine.execute env instruction = .error error) :
    (∃ expected found,
      error = .invalidOperand instruction.operation expected found machine.pc) ∨
    (instruction.operation.isJump = true ∧ ∃ target, instruction.right = some (.position target) ∧
      env.length < target ∧ error = .jumpOutOfRange target env.length machine.pc) := by
  cases jumps : instruction.operation.isJump with
  | false => exact .inl (blames_execute env machine instruction jumps error failed)
  | true =>
    obtain ⟨operation, ret, left, right⟩ := instruction
    obtain ⟨wanted, rfl⟩ := Operation.eq_jumpOn jumps
    rw [execute_jump, Except.bind_eq_error] at failed
    rcases failed with early | ⟨value, -, failed⟩
    · exact .inl (blames_scratchOperand left error early)
    rcases Except.bind_eq_error.mp failed with aimed | ⟨target, -, late⟩
    · unfold positionOperand at aimed
      split at aimed
      · split at aimed
        · exact nomatch aimed
        · rename_i outside
          cases aimed
          exact .inr ⟨rfl, _, rfl, Nat.lt_of_not_le outside, rfl⟩
      · exact .inl (blames_invalid _ _ error aimed)
    · split at late <;> exact nomatch late

end Machine

end ScoringRules
