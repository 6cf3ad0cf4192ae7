import ScoringRules.Proofs.Code.Execution
import ScoringRules.Proofs.Code.Induction
import ScoringRules.Proofs.Code.Jumps

/-!
The instructions that generated code is made of, apart from its jumps. None of them names a place,
and only a comparison among them can fail.
-/

namespace ScoringRules

def Operation.compares : Operation → Bool
  | .isEqual | .isNotEqual | .isGreater | .isGreaterOrEqual | .isLess | .isLessOrEqual
  | .contains | .doesNotContain | .matches_ | .doesNotMatch => true
  | _ => false

theorem Comparison.compares_operation (cmp : Comparison) : cmp.operation.compares = true := by
  cases cmp <;> rfl

/-- The instructions that rules are translated to, jumps apart. -/
inductive Instruction.Made : Instruction → Prop where
  | comparison (cmp : Comparison) (ret : Register) (left right : Value) :
      Made (.compare cmp.operation ret left.operand right.operand)
  | negation (ret : Register) : Made (.negate ret)
  | change (score : String) (op : ScoreOp) (amount : Amount) :
      Made (.change op.operation score amount.operand)
  | exit : Made (.plain .exit)
  | noop : Made (.plain .noop)

namespace Block

/-- All instructions of a block, jumps apart, have this property. -/
def Every (P : Instruction → Prop) : Block → Prop
  | empty | leave _ _ _ => True
  | single instruction _ => P instruction
  | append first second => first.Every P ∧ second.Every P
  | scope body => body.Every P

variable {P : Instruction → Prop}

theorem Every.of_mem_layout {block : Block} (every : block.Every P) {start exit : Nat}
    {instruction : Instruction} (member : instruction ∈ block.layout start (some exit)) :
    P instruction ∨ ∃ wanted ret tested target, instruction = leaving wanted ret tested target := by
  induction block generalizing start exit with
  | empty => exact nomatch member
  | single other straight =>
    obtain rfl := List.mem_singleton.mp member
    exact .inl every
  | append first second ihFirst ihSecond =>
    rcases List.mem_append.mp member with member | member
    · exact ihFirst every.1 member
    · exact ihSecond every.2 member
  | scope body ih => exact ih every member
  | leave wanted ret tested => exact .inr ⟨wanted, ret, tested, exit, List.mem_singleton.mp member⟩

theorem every_chain {blocks : List Block} (each : ∀ block ∈ blocks, block.Every P) (wanted : Bool)
    (ret tested : Register) : (chain wanted ret tested blocks).Every P := by
  induction blocks with
  | nil => trivial
  | cons first rest ih =>
    obtain ⟨eachFirst, eachRest⟩ := List.forall_mem_cons.mp each
    exact ⟨⟨eachFirst, trivial⟩, ih eachRest⟩

open Instruction (Made)

section Rules

variable {accepts : String → Bool}

theorem made_ofCondition {condition : Condition} (sound : condition.defect? accepts = none)
    (inUse : Nat) {ret : Register} (positive : ret ≠ 0) :
    (ofCondition condition inUse ret).Every Made :=
  ofCondition_induction (P := fun _ block => block.Every Made)
    (fun wanted ret tested _ _ _ each => every_chain each wanted ret tested)
    (fun ret _ _ every => ⟨every, .negation ret⟩)
    (fun cmp ret left right _ => .comparison cmp ret left right)
    (fun _ _ every => ⟨every, trivial⟩) sound inUse positive

theorem made_ofStatements {rules : List Statement} (sound : statementsDefect? accepts rules = none)
    (inUse : Nat) : (ofStatements inUse rules).Every Made :=
  ofStatements_induction trivial (fun _ _ every everyToo => ⟨every, everyToo⟩)
    (fun _ inUse _ sound every =>
      ⟨made_ofCondition sound (inUse + 1) (Nat.succ_ne_zero inUse), trivial, every⟩)
    (fun score op amount _ => .change score op amount) .exit sound inUse

theorem made_ofProgram {rules : List Statement} (sound : statementsDefect? accepts rules = none) :
    (ofProgram rules).Every Made :=
  ⟨made_ofStatements sound 0, .noop⟩

end Rules

end Block

namespace Code

variable {accepts : String → Bool} {rules : List Statement} {code : Code}

theorem made_of_generate (generated : (generate accepts rules).1 = .ok code) {index : Nat}
    {instruction : Instruction} (fetched : code[index]? = some instruction) :
    instruction.Made ∨ ∃ wanted ret tested target, target < code.size ∧
      instruction = Block.leaving wanted ret tested target := by
  obtain ⟨sound, shape⟩ := eq_layout_of_generate generated
  rw [Block.layout_of_closed (Block.closed_ofProgram rules) 0 none (some code.size)] at shape
  have member : instruction ∈ (Block.ofProgram rules).layout 0 (some code.size) := by
    rw [← Array.getElem?_toList] at fetched
    rw [← List.mem_toArray, ← shape, Array.mem_def]
    exact List.mem_of_getElem? fetched
  rcases (Block.made_ofProgram sound).of_mem_layout member with
    made | ⟨wanted, ret, tested, target, rfl⟩
  · exact .inl made
  · have jumps : (Block.leaving wanted ret tested target).operation.isJump = true := by
      cases wanted <;> rfl
    obtain ⟨aim, leads, -, inside⟩ := forward_of_generate generated _ _ fetched jumps
    obtain rfl : target = aim := by simpa [Block.leaving, Instruction.jump] using leads
    exact .inr ⟨wanted, ret, tested, target, inside, rfl⟩

theorem execute_of_generate (generated : (generate accepts rules).1 = .ok code) {index : Nat}
    {instruction : Instruction} (fetched : code[index]? = some instruction)
    (other : instruction.operation.compares = false) (isMatch : String → String → Bool)
    (vars : Variables) (machine : Machine) :
    ∃ result, machine.execute ⟨code.size, vars, isMatch⟩ instruction = .ok result := by
  rcases made_of_generate generated fetched with made | ⟨wanted, ret, tested, target, inside, rfl⟩
  · cases made with
    | comparison cmp ret left right =>
      change cmp.operation.compares = false at other
      rw [cmp.compares_operation] at other
      cases other
    | negation ret => exact ⟨_, rfl⟩
    | change score op amount => cases op <;> cases amount <;> exact ⟨_, rfl⟩
    | exit => exact ⟨_, rfl⟩
    | noop => exact ⟨_, rfl⟩
  · exact ⟨_, Block.execute_leaving machine wanted ret tested (Nat.le_of_lt inside)⟩

end Code

end ScoringRules
