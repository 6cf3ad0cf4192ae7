import ScoringRules.Proofs.Code.Kinds

/-!
The patterns in compiled code are those of the source. Values of rules are compared and nothing
else, and no comparison is left out.
-/

namespace ScoringRules

def Instruction.operands (instruction : Instruction) : List Operand :=
  instruction.left.toList ++ instruction.right.toList

def Test.Sound (accepts : String → Bool) (test : Test) : Prop :=
  test.left.defect? accepts = none ∧ test.right.defect? accepts = none

section Rules

variable {accepts filled : String → Bool}

theorem Condition.defect?_eq_none_iff {condition : Condition}
    (nonempty : condition.defect? filled = none) :
    condition.defect? accepts = none ↔ ∀ test ∈ condition.tests, test.Sound accepts := by
  induction condition using Condition.induction with
  | scalar left cmp right =>
    rw [defect?, tests, Option.or_eq_none_iff, List.forall_mem_singleton]
    rfl
  | list left negated members =>
    cases members with
    | nil => cases nonempty
    | cons first rest =>
      rw [defect?, tests, List.forall_mem_map]
      simp only [List.isEmpty_cons, Bool.false_eq_true, if_false, Option.or_eq_none_iff,
        List.findSome?_eq_none_iff, Test.Sound]
      exact ⟨fun sound member inside => ⟨sound.1, sound.2 member inside⟩,
        fun sound => ⟨(sound first List.mem_cons_self).1, fun member inside =>
          (sound member inside).2⟩⟩
  | nested clauses ih =>
    rw [defect?_nested, expressionDefect?, Block.firstDefect?_map_eq_none_iff] at nonempty ⊢
    rw [tests_nested, List.forall_mem_flatMap, and_iff_right nonempty.1]
    refine forall₂_congr fun clause inside => ?_
    have clauseNonempty := nonempty.2 clause inside
    rw [clauseDefect?, Block.firstDefect?_map_eq_none_iff] at clauseNonempty ⊢
    rw [List.forall_mem_flatMap, and_iff_right clauseNonempty.1]
    exact forall₂_congr fun condition within =>
      ih clause inside condition within (clauseNonempty.2 condition within)

theorem statementsDefect?_eq_none_iff_of_each {statements : List Statement}
    (each : ∀ statement ∈ statements, statement.defect? filled = none →
      (statement.defect? accepts = none ↔ ∀ test ∈ statement.tests, test.Sound accepts))
    (nonempty : statementsDefect? filled statements = none) :
    statementsDefect? accepts statements = none ↔
      ∀ test ∈ statementTests statements, test.Sound accepts := by
  induction statements with
  | nil => simp [statementsDefect?, statementTests]
  | cons first rest ih =>
    obtain ⟨eachFirst, eachRest⟩ := List.forall_mem_cons.mp each
    rw [statementsDefect?, Option.or_eq_none_iff] at nonempty ⊢
    rw [statementTests, List.forall_mem_append, eachFirst nonempty.1, ih eachRest nonempty.2]

theorem Statement.defect?_eq_none_iff {statement : Statement}
    (nonempty : statement.defect? filled = none) :
    statement.defect? accepts = none ↔ ∀ test ∈ statement.tests, test.Sound accepts := by
  induction statement using Statement.induction with
  | rule condition consequences ih =>
    rw [defect?, Option.or_eq_none_iff, ← Condition.defect?_nested] at nonempty ⊢
    rw [tests, List.forall_mem_append, Condition.defect?_eq_none_iff nonempty.1,
      statementsDefect?_eq_none_iff_of_each ih nonempty.2]
  | change | exit => simp [defect?, tests]

theorem statementsDefect?_eq_none_iff {rules : List Statement}
    (nonempty : statementsDefect? filled rules = none) :
    statementsDefect? accepts rules = none ↔
      ∀ test ∈ statementTests rules, test.Sound accepts :=
  statementsDefect?_eq_none_iff_of_each (fun _ _ => Statement.defect?_eq_none_iff) nonempty

end Rules

theorem Value.defect?_bne_eq_none_iff {value : Value} {pattern : String} :
    value.defect? (· != pattern) = none ↔ value.operand ≠ .regex pattern := by
  cases value <;> simp [defect?, operand]

theorem Test.sound_bne_iff {test : Test} {pattern : String} :
    test.Sound (· != pattern) ↔ .regex pattern ∉ test.instruction.operands := by
  rw [Sound, Value.defect?_bne_eq_none_iff, Value.defect?_bne_eq_none_iff]
  simp [instruction, Instruction.compare, Instruction.operands, eq_comm]

namespace Code

variable {accepts : String → Bool} {source : String} {tokens : List Token}
  {rules : List Statement} {code : Code} {pattern : String}

theorem compares_of_pattern (generated : (generate accepts rules).1 = .ok code)
    {instruction : Instruction} (member : instruction ∈ code)
    (operand : .regex pattern ∈ instruction.operands) :
    instruction.operation.compares = true := by
  obtain ⟨index, fetched⟩ := Array.mem_iff_getElem?.mp member
  rcases made_of_generate generated fetched with made | ⟨wanted, ret, tested, target, -, rfl⟩
  · cases made with
    | comparison cmp => exact cmp.compares_operation
    | change score op amount =>
      cases amount <;> simp [Instruction.operands, Instruction.change, Amount.operand] at operand
    | negation => simp [Instruction.operands, Instruction.negate] at operand
    | exit | noop => simp [Instruction.operands, Instruction.plain] at operand
  · simp [Instruction.operands, Block.leaving, Instruction.jump] at operand

theorem exists_operand_iff_test (generated : (generate accepts rules).1 = .ok code) :
    (∃ instruction ∈ code, .regex pattern ∈ instruction.operands) ↔
      ∃ test ∈ statementTests rules, .regex pattern ∈ test.instruction.operands := by
  have listed := comparisons_of_generate generated
  constructor
  · rintro ⟨instruction, member, operand⟩
    have made : instruction.comparison? = some { instruction with ret := 0 } :=
      if_pos (compares_of_pattern generated member operand)
    have found := List.mem_filterMap.mpr ⟨instruction, Array.mem_def.mp member, made⟩
    rw [listed] at found
    obtain ⟨test, inside, same⟩ := List.mem_map.mp found
    exact ⟨test, inside, same ▸ operand⟩
  · rintro ⟨test, inside, operand⟩
    have found := List.mem_map_of_mem (f := Test.instruction) inside
    rw [← listed] at found
    obtain ⟨instruction, member, made⟩ := List.mem_filterMap.mp found
    refine ⟨instruction, Array.mem_def.mpr member, ?_⟩
    unfold Instruction.comparison? at made
    split at made
    · rwa [← Option.some.inj made] at operand
    · cases made

/-- A pattern is in compiled code if and only if it is a token of the source. -/
theorem exists_operand_iff_token (reads : Reads source tokens rules)
    (generated : (generate accepts rules).1 = .ok code) :
    (∃ instruction ∈ code, .regex pattern ∈ instruction.operands) ↔
      ∃ token ∈ tokens, token.kind = .regex pattern := by
  have sound := (eq_layout_of_generate generated).1
  -- Were the pattern alone refused, tokens and rules would have a defect in the same cases.
  have absent : (∀ test ∈ statementTests rules, test.Sound (· != pattern)) ↔
      ∀ token ∈ tokens, token.defect? (· != pattern) = none := by
    rw [← statementsDefect?_eq_none_iff sound, statementsDefect?_of_reads reads,
      List.findSome?_eq_none_iff]
  rw [exists_operand_iff_test generated, ← not_iff_not]
  simp only [Test.sound_bne_iff, Token.defect?_eq_none_iff, bne_iff_ne] at absent
  push Not
  rw [absent]
  exact forall₂_congr fun token _ =>
    ⟨fun apart same => apart pattern same rfl, fun apart other same equal =>
      apart (equal ▸ same)⟩

end Code

end ScoringRules
