import ScoringRules.Code.Generator
import ScoringRules.Proofs.Machine.Assignment
import ScoringRules.Proofs.Rule.Evaluation

/-!
What an instruction does to the machine it runs on. Done in place, step by step, a failure comes
before the first write and leaves the machine as it was; a success touches one register or one
score, and only a jump moves the machine.
-/

namespace ScoringRules

def Operation.scoreOp? : Operation → Option ScoreOp
  | .setScore => some .set
  | .addScore => some .add
  | .subScore => some .sub
  | _ => none

namespace Operation

theorem kinds (operation : Operation) :
    (operation = .noop ∨ operation = .exit) ∨ (∃ op : ScoreOp, operation = op.operation) ∨
      operation.answers = true := by
  cases operation
  case noop | exit => simp
  case setScore => exact .inr (.inl ⟨.set, rfl⟩)
  case addScore => exact .inr (.inl ⟨.add, rfl⟩)
  case subScore => exact .inr (.inl ⟨.sub, rfl⟩)
  all_goals exact .inr (.inr rfl)

@[simp] theorem scoreOp?_operation (op : ScoreOp) : op.operation.scoreOp? = some op := by
  cases op <;> rfl

theorem eq_operation_of_scoreOp? {operation : Operation} {op : ScoreOp}
    (changes : operation.scoreOp? = some op) : operation = op.operation := by
  cases operation <;> cases op <;> simp [scoreOp?, ScoreOp.operation] at changes ⊢

theorem scoreOp?_of_answers {operation : Operation} (answers : operation.answers = true) :
    operation.scoreOp? = none := by
  cases operation <;> simp [Operation.answers, scoreOp?] at answers ⊢

end Operation

/-- Work on a machine in place: a failure leaves the machine as far as the work has come. -/
abbrev Work := EStateM RuntimeError Machine

namespace Machine

def look (read : Machine → Except RuntimeError α) : Work α := fun machine =>
  match read machine with
  | .ok value => .ok value machine
  | .error error => .error error machine

def openScore (machine : Machine) (name : String) : Machine :=
  if machine.scores.contains name then machine else machine.writeScore name 0

/-- Executes an instruction in place: each operand is read when its turn comes, and each register,
score and place is written on its own. -/
def perform (env : Environment) (instruction : Instruction) : Work Flow :=
  let operation := instruction.operation
  let left := instruction.left
  let right := instruction.right
  let answer (value : Bool) : Work Flow := do
    modify (·.writeRegister instruction.ret value)
    return .proceed
  let compareInts (test : Int64 → Int64 → Bool) : Work Flow := do
    let a ← look (·.intOperand operation left)
    let b ← look (·.intOperand operation right)
    answer (test a b)
  let compareTexts (test : String → String → Bool) : Work Flow := do
    let text ← look (·.stringOperand operation env.vars left)
    let part ← look (·.stringOperand operation env.vars right)
    answer (test text part)
  let matchText (wanted : Bool) : Work Flow := do
    let text ← look (·.stringOperand operation env.vars left)
    let pattern ← look (·.regexOperand operation right)
    answer (env.isMatch pattern text == wanted)
  let jumpOn (wanted : Bool) : Work Flow := do
    let value ← look (·.scratchOperand operation left)
    let target ← look (·.positionOperand operation env.length right)
    modify (·.writeRegister instruction.ret (value == wanted))
    if value == wanted then
      modify ({ · with pc := target })
      return .jumped
    else
      return .proceed
  let changeScore (op : ScoreOp) : Work Flow := do
    let name ← look (·.scoreOperand operation left)
    let value ← look (·.intOperand operation right)
    modify (·.openScore name)
    modify fun machine => machine.writeScore name (op.apply (machine.readScore name) value)
    return .proceed
  match operation with
  | .noop => return .proceed
  | .exit => return .halted
  | .isEqual => do answer (← look (·.areEqual operation env.vars left right))
  | .isNotEqual => do answer !(← look (·.areEqual operation env.vars left right))
  | .isGreater => compareInts fun a b => b < a
  | .isGreaterOrEqual => compareInts fun a b => b ≤ a
  | .isLess => compareInts fun a b => a < b
  | .isLessOrEqual => compareInts fun a b => a ≤ b
  | .contains => compareTexts fun text part => occursIn part.toList text.toList
  | .doesNotContain => compareTexts fun text part => !occursIn part.toList text.toList
  | .matches_ => matchText true
  | .doesNotMatch => matchText false
  | .jumpIfTrue => jumpOn true
  | .jumpIfFalse => jumpOn false
  | .negate => do answer !(← look (·.scratchOperand operation left))
  | .setScore => changeScore .set
  | .addScore => changeScore .add
  | .subScore => changeScore .sub

/-- The outcome in place of a step that has no part of its effect when it fails. -/
def whole (machine : Machine) :
    Except RuntimeError (Machine × Flow) → EStateM.Result RuntimeError Machine Flow
  | .ok (next, flow) => .ok flow next
  | .error error => .error error machine

section InPlace

variable {env : Environment} {machine : Machine}

theorem look_bind {read : Machine → Except RuntimeError α} {work : α → Work Flow}
    {step : α → Except RuntimeError (Machine × Flow)}
    (rest : ∀ value, work value machine = whole machine (step value)) :
    (look read >>= work) machine = whole machine (read machine >>= step) := by
  change EStateM.bind (look read) work machine = _
  unfold EStateM.bind look
  cases read machine with
  | ok value => exact rest value
  | error error => rfl

theorem readScore_openScore (machine : Machine) (name other : String) :
    (machine.openScore name).readScore other = machine.readScore other := by
  unfold openScore
  split
  · rfl
  · rename_i absent
    rw [OrderedMap.contains, Option.not_isSome_iff_eq_none] at absent
    by_cases same : other = name
    · simp [readScore, writeScore, OrderedMap.getD, same, absent]
    · simp [readScore, writeScore, OrderedMap.getD, same]

theorem writeScore_openScore (machine : Machine) (name : String) (value : Int64) :
    (machine.openScore name).writeScore name value = machine.writeScore name value := by
  unfold openScore
  split
  · rfl
  · exact congrArg (fun scores => { machine with scores })
      (OrderedMap.insert_insert machine.scores name 0 value)

theorem execute_scoreChange (env : Environment) (machine : Machine) (op : ScoreOp)
    (ret : Register) (left right : Option Operand) :
    machine.execute env ⟨op.operation, ret, left, right⟩ = (do
      let name ← machine.scoreOperand op.operation left
      let value ← machine.intOperand op.operation right
      return (machine.writeScore name (op.apply (machine.readScore name) value), .proceed)) := by
  cases op <;> rfl

theorem perform_eq_whole (env : Environment) (machine : Machine) (instruction : Instruction) :
    perform env instruction machine = whole machine (machine.execute env instruction) := by
  obtain ⟨operation, ret, left, right⟩ := instruction
  cases operation
  case noop | exit => rfl
  case isEqual | isNotEqual | negate => exact look_bind fun _ => rfl
  case jumpIfTrue | jumpIfFalse =>
    refine look_bind fun value => look_bind fun target => ?_
    cases value <;> rfl
  case setScore | addScore | subScore =>
    refine look_bind fun name => look_bind fun value => ?_
    refine (congrArg (EStateM.Result.ok Flow.proceed) (writeScore_openScore machine name _)).trans ?_
    rw [readScore_openScore]
    rfl
  all_goals exact look_bind fun _ => look_bind fun _ => rfl

theorem perform_eq_error_iff {instruction : Instruction} {error : RuntimeError}
    {after : Machine} :
    perform env instruction machine = .error error after ↔
      after = machine ∧ machine.execute env instruction = .error error := by
  rw [perform_eq_whole]
  cases machine.execute env instruction <;> simp [whole, and_comm, eq_comm]

theorem perform_eq_ok_iff {instruction : Instruction} {next : Machine} {flow : Flow} :
    perform env instruction machine = .ok flow next ↔
      machine.execute env instruction = .ok (next, flow) := by
  rw [perform_eq_whole]
  cases machine.execute env instruction <;> simp [whole, Prod.ext_iff, and_comm]

end InPlace

/-- What an instruction may change when it succeeds. -/
structure Effect (env : Environment) (instruction : Instruction) (machine next : Machine)
    (flow : Flow) : Prop where
  /-- A comparison, a jump or a negation writes to its register, if that is not register 0. -/
  answer : instruction.operation.answers = true → next.scores = machine.scores ∧
    (instruction.ret = 0 → next.registers = machine.registers) ∧
    ∀ register ≠ instruction.ret,
      next.registers.get? register = machine.registers.get? register
  /-- A change of a score writes to the score on its left, which comes last if it is new. -/
  change : instruction.operation.scoreOp?.isSome = true → next.registers = machine.registers ∧
    ∃ name, instruction.left = some (.score name) ∧
      (∀ other ≠ name, next.scores.get? other = machine.scores.get? other) ∧
      next.scores.keys = if name ∈ machine.scores.keys then machine.scores.keys
        else machine.scores.keys ++ [name]
  idle : instruction.operation = .noop ∨ instruction.operation = .exit →
    next.registers = machine.registers ∧ next.scores = machine.scores
  stay : flow ≠ .jumped → next.pc = machine.pc
  move : flow = .jumped → instruction.operation.isJump = true ∧
    ∃ target ≤ env.length, instruction.right = some (.position target) ∧ next.pc = target

section Success

variable {env : Environment} {machine next : Machine} {instruction : Instruction} {flow : Flow}

theorem registers_writeRegister (machine : Machine) (ret : Register) (value : Bool) :
    (ret = 0 → (machine.writeRegister ret value).registers = machine.registers) ∧
      ∀ register ≠ ret, (machine.writeRegister ret value).registers.get? register =
        machine.registers.get? register := by
  unfold writeRegister
  split
  · exact ⟨fun _ => rfl, fun _ _ => rfl⟩
  · rename_i positive
    exact ⟨fun zero => absurd zero positive, fun register other => by simp [other]⟩

def Answered (machine : Machine) (ret : Register)
    (result : Except RuntimeError (Machine × Flow)) : Prop :=
  ∀ next flow, result = .ok (next, flow) →
    flow = .proceed ∧ ∃ value, next = machine.writeRegister ret value

theorem Answered.answer {ret : Register} (value : Bool) :
    Answered machine ret (.ok (machine.writeRegister ret value, .proceed)) := by
  rintro _ _ ⟨⟩
  exact ⟨rfl, value, rfl⟩

theorem Answered.bind {ret : Register} {result : Except RuntimeError α}
    {rest : α → Except RuntimeError (Machine × Flow)}
    (each : ∀ value, Answered machine ret (rest value)) :
    Answered machine ret (result >>= rest) := by
  intro next flow done
  obtain ⟨value, -, done⟩ := Except.bind_eq_ok.mp done
  exact each value next flow done

theorem answered_execute (answers : instruction.operation.answers = true)
    (straight : instruction.operation.isJump = false) :
    Answered machine instruction.ret (machine.execute env instruction) := by
  obtain ⟨operation, ret, left, right⟩ := instruction
  cases operation <;>
    simp only [Operation.answers, Operation.isJump, Bool.false_eq_true, Bool.true_eq_false]
      at answers straight
  case isEqual | isNotEqual | negate => exact .bind fun _ => .answer _
  all_goals exact .bind fun _ => .bind fun _ => .answer _

theorem execute_scoreChange_eq_ok {op : ScoreOp} {ret : Register} {left right : Option Operand}
    (done : machine.execute env ⟨op.operation, ret, left, right⟩ = .ok (next, flow)) :
    ∃ name value, left = some (.score name) ∧
      machine.intOperand op.operation right = .ok value ∧
      next = machine.writeScore name (op.apply (machine.readScore name) value) ∧
      flow = .proceed := by
  rw [execute_scoreChange] at done
  obtain ⟨name, named, done⟩ := Except.bind_eq_ok.mp done
  obtain ⟨value, amounts, done⟩ := Except.bind_eq_ok.mp done
  cases done
  exact ⟨name, value, scoreOperand_eq_ok named, amounts, rfl, rfl⟩

theorem not_idle_of_answers (answers : instruction.operation.answers = true) :
    ¬ (instruction.operation = .noop ∨ instruction.operation = .exit) := by
  rintro (idle | idle) <;> simp [idle, Operation.answers] at answers

theorem effect_answer (answers : instruction.operation.answers = true) (value : Bool) :
    Effect env instruction machine (machine.writeRegister instruction.ret value) .proceed where
  answer := fun _ =>
    ⟨scores_writeRegister machine _ value, registers_writeRegister machine _ value⟩
  change := fun changes => by simp [Operation.scoreOp?_of_answers answers] at changes
  idle := fun idle => absurd idle (not_idle_of_answers answers)
  stay := fun _ => pc_writeRegister machine _ value
  move := nofun

theorem effect_jump (jumps : instruction.operation.isJump = true)
    (answers : instruction.operation.answers = true) {target : Nat}
    (leads : instruction.right = some (.position target)) (inside : target ≤ env.length) :
    Effect env instruction machine
      { machine.writeRegister instruction.ret true with pc := target } .jumped where
  answer := fun _ =>
    ⟨scores_writeRegister machine _ true, registers_writeRegister machine _ true⟩
  change := fun changes => by simp [Operation.scoreOp?_of_answers answers] at changes
  idle := fun idle => absurd idle (not_idle_of_answers answers)
  stay := fun other => absurd rfl other
  move := fun _ => ⟨jumps, target, inside, leads, rfl⟩

theorem effect_change {op : ScoreOp} (changes : instruction.operation = op.operation)
    {name : String} (left : instruction.left = some (.score name)) (value : Int64) :
    Effect env instruction machine (machine.writeScore name value) .proceed where
  answer := fun answers => by
    have idle := Operation.scoreOp?_of_answers answers
    simp [changes] at idle
  change := fun _ => ⟨rfl, name, left, fun other different => by simp [writeScore, different],
    OrderedMap.keys_insert machine.scores name value⟩
  idle := fun idle => by cases op <;> simp [changes, ScoreOp.operation] at idle
  stay := fun _ => rfl
  move := nofun

theorem effect_idle (idle : instruction.operation = .noop ∨ instruction.operation = .exit)
    (still : flow ≠ .jumped) : Effect env instruction machine machine flow where
  answer := fun answers => absurd idle (not_idle_of_answers answers)
  change := fun changes => by
    rcases idle with idle | idle <;> simp [idle, Operation.scoreOp?] at changes
  idle := fun _ => ⟨rfl, rfl⟩
  stay := fun _ => rfl
  move := fun jumped => absurd jumped still

theorem effect_of_execute (done : machine.execute env instruction = .ok (next, flow)) :
    Effect env instruction machine next flow := by
  obtain ⟨operation, ret, left, right⟩ := instruction
  rcases operation.kinds with (rfl | rfl) | ⟨op, rfl⟩ | answers
  · cases done
    exact effect_idle (.inl rfl) nofun
  · cases done
    exact effect_idle (.inr rfl) nofun
  · obtain ⟨name, value, left, -, rfl, rfl⟩ := execute_scoreChange_eq_ok done
    exact effect_change rfl left _
  · cases jumps : operation.isJump with
    | false =>
      obtain ⟨rfl, value, rfl⟩ := answered_execute answers jumps next flow done
      exact effect_answer answers value
    | true =>
      obtain ⟨wanted, rfl⟩ := Operation.eq_jumpOn jumps
      rw [execute_jump] at done
      obtain ⟨value, -, done⟩ := Except.bind_eq_ok.mp done
      obtain ⟨target, aimed, done⟩ := Except.bind_eq_ok.mp done
      obtain ⟨leads, inside⟩ := positionOperand_eq_ok aimed
      cases taken : value == wanted <;> rw [taken] at done <;> cases done
      · exact effect_answer answers false
      · exact effect_jump jumps answers leads inside

end Success

/-- Inside the code or right behind it, and without a value in register 0. -/
structure Sane (code : Code) (machine : Machine) : Prop where
  pc : machine.pc ≤ code.size
  zero : machine.registers.get? 0 = none

section Reached

variable {env : Environment} {code : Code} {machine next : Machine} {instruction : Instruction}

theorem Effect.zero {flow : Flow} (effect : Effect env instruction machine next flow) :
    next.registers.get? 0 = machine.registers.get? 0 := by
  rcases instruction.operation.kinds with idle | ⟨op, changes⟩ | answers
  · rw [(effect.idle idle).1]
  · rw [(effect.change (by simp [changes])).1]
  · obtain ⟨-, none, others⟩ := effect.answer answers
    by_cases zero : instruction.ret = 0
    · rw [none zero]
    · exact others 0 (Ne.symm zero)

theorem Sane.turn (sane : machine.Sane code) (length : env.length = code.size)
    (went : machine.turn env code = .next next) : next.Sane code := by
  obtain ⟨instruction, after, fetched, ⟨executed, rfl⟩ | ⟨executed, rfl⟩⟩ := turn_eq_next went
  · have inside := (Array.getElem?_eq_some_iff.mp fetched).1
    have effect := effect_of_execute executed
    exact ⟨(effect.stay nofun).symm ▸ inside, effect.zero.trans sane.zero⟩
  · have effect := effect_of_execute executed
    obtain ⟨-, target, below, -, there⟩ := effect.move rfl
    exact ⟨there ▸ length ▸ below, effect.zero.trans sane.zero⟩

theorem Sane.of_reaches (sane : machine.Sane code) (length : env.length = code.size)
    {last : Machine} (reaches : Reaches env code machine last) : last.Sane code := by
  induction reaches with
  | refl => exact sane
  | tail _ went ih => exact ih.turn length went

end Reached

end Machine

namespace Code

/-- An instruction that fails in place has changed nothing. One that succeeds has the effect of
its kind of operation and no other, so a run never gets further than the end of the code, and never
sees a value in register 0. -/
theorem instruction_changes_one (isMatch : String → String → Bool) (code : Code)
    (vars : Variables) (machine : Machine) (instruction : Instruction) :
    (∀ error after, Machine.perform ⟨code.size, vars, isMatch⟩ instruction machine =
        .error error after ↔
      after = machine ∧ machine.execute ⟨code.size, vars, isMatch⟩ instruction = .error error) ∧
    (∀ flow next, Machine.perform ⟨code.size, vars, isMatch⟩ instruction machine =
        .ok flow next ↔
      machine.execute ⟨code.size, vars, isMatch⟩ instruction = .ok (next, flow)) ∧
    (∀ flow next, machine.execute ⟨code.size, vars, isMatch⟩ instruction = .ok (next, flow) →
      Machine.Effect ⟨code.size, vars, isMatch⟩ instruction machine next flow) ∧
    ∀ budget last, code.run isMatch budget vars = .unfinished last →
      last.pc ≤ code.size ∧ last.readRegister 0 = false := by
  refine ⟨fun error after => Machine.perform_eq_error_iff,
    fun flow next => Machine.perform_eq_ok_iff,
    fun flow next done => Machine.effect_of_execute done, fun budget last unfinished => ?_⟩
  have sane : Machine.start.Sane code := ⟨Nat.zero_le _, rfl⟩
  rw [run_eq_ending] at unfinished
  obtain ⟨inside, none⟩ := sane.of_reaches rfl (Machine.reaches_of_unfinished unfinished)
  exact ⟨inside, by rw [Machine.readRegister, OrderedMap.getD, none]; rfl⟩

theorem instruction_changes_one_selfReference :
    let code : Code := #[.change .subScore "a" (.score "a"), .jump .jumpIfFalse 0 5 0,
      .jump .jumpIfTrue 2 1 4]
    let machine : Machine := ⟨0, OrderedMap.empty.insert 1 true, OrderedMap.empty.insert "a" 7⟩
    let env : Environment := ⟨code.size, ∅, fun _ _ => false⟩
    Machine.perform env (.jump .jumpIfTrue 2 1 4) machine =
        .error (.jumpOutOfRange 4 3 0) machine ∧
      (∃ next, machine.execute env (.change .subScore "a" (.score "a")) = .ok (next, .proceed) ∧
        next.registers = machine.registers ∧ next.scores.keys = ["a"]) ∧
      ∃ last, code.run (fun _ _ => false) 7 ∅ = .unfinished last ∧ last.pc ≤ code.size := by
  intro code machine env
  obtain ⟨failure, -⟩ := instruction_changes_one (fun _ _ => false) code ∅ machine
    (.jump .jumpIfTrue 2 1 4)
  obtain ⟨-, -, effect, reached⟩ := instruction_changes_one (fun _ _ => false) code ∅ machine
    (.change .subScore "a" (.score "a"))
  refine ⟨(failure _ _).mpr ⟨rfl, rfl⟩, ⟨_, rfl, ?_⟩, _, rfl, (reached 7 _ rfl).1⟩
  obtain ⟨same, name, left, -, keys⟩ := (effect .proceed _ rfl).change rfl
  cases left
  exact ⟨same, keys⟩

end Code

end ScoringRules
