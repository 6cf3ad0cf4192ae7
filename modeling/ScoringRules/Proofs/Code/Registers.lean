import ScoringRules.Proofs.Code.Allocation
import ScoringRules.Proofs.Code.Jumps

/-!
The registers of generated code. They are the lowest ones, as many as the nesting of the rules
needs: a node with one member leaves its register to the member, and members that are searched
through get one register in turn.
-/

namespace ScoringRules

def largest (needs : List Nat) : Nat :=
  needs.foldr max 0

@[simp] theorem largest_nil : largest [] = 0 := rfl

@[simp] theorem largest_cons (need : Nat) (needs : List Nat) :
    largest (need :: needs) = max need (largest needs) := rfl

theorem largest_zeros (items : List α) : largest (items.map fun _ => 0) = 0 := by
  induction items with
  | nil => rfl
  | cons first rest ih => rw [List.map_cons, largest_cons, ih, Nat.max_zero]

/-- How many registers a node takes beside its own, for members with these needs. -/
def memberNeed : List Nat → Nat
  | [] => 0
  | [need] => need
  | needs => 1 + largest needs

mutual

def Condition.need : Condition → Nat
  | .scalar _ _ _ => 0
  | .list _ _ _ => 1
  | .nested clauses => memberNeed (clauseNeeds clauses)

def clauseNeeds : List (List Condition) → List Nat
  | [] => []
  | first :: rest => memberNeed (conditionNeeds first) :: clauseNeeds rest

def conditionNeeds : List Condition → List Nat
  | [] => []
  | first :: rest => first.need :: conditionNeeds rest

end

def clauseNeed (clause : Clause) : Nat :=
  memberNeed (clause.map Condition.need)

def expressionNeed (expression : Expression) : Nat :=
  memberNeed (expression.map clauseNeed)

mutual

/-- How many registers a statement takes; a rule holds one for its condition all the time. -/
def Statement.need : Statement → Nat
  | .rule condition consequences =>
    1 + max (expressionNeed condition) (largest (statementNeeds consequences))
  | .change _ _ _ | .exit => 0

def statementNeeds : List Statement → List Nat
  | [] => []
  | first :: rest => first.need :: statementNeeds rest

end

theorem conditionNeeds_eq_map (conditions : List Condition) :
    conditionNeeds conditions = conditions.map Condition.need := by
  induction conditions with
  | nil => simp [conditionNeeds]
  | cons first rest ih => simp [conditionNeeds, ih]

theorem clauseNeeds_eq_map (clauses : List (List Condition)) :
    clauseNeeds clauses = clauses.map clauseNeed := by
  induction clauses with
  | nil => simp [clauseNeeds]
  | cons first rest ih => simp [clauseNeeds, ih, clauseNeed, conditionNeeds_eq_map]

theorem Condition.need_nested (clauses : Expression) :
    (Condition.nested clauses).need = expressionNeed clauses := by
  rw [Condition.need, clauseNeeds_eq_map, expressionNeed]

theorem statementNeeds_eq_map (statements : List Statement) :
    statementNeeds statements = statements.map Statement.need := by
  induction statements with
  | nil => simp [statementNeeds]
  | cons first rest ih => simp [statementNeeds, ih]

def Instruction.Mentions (instruction : Instruction) (register : Register) : Prop :=
  instruction.Writes register ∨ instruction.left = some (.scratch register) ∨
    instruction.right = some (.scratch register)

theorem not_mentions_plain (operation : Operation) (register : Register) :
    ¬ (Instruction.plain operation).Mentions register := by
  simp only [Instruction.Mentions, Instruction.Writes, Instruction.plain, reduceCtorEq, or_false]
  exact fun writes => writes.2 writes.1.symm

namespace Block

def Mentions (register : Nat) : Block → Prop
  | empty => False
  | single instruction _ => instruction.Mentions register
  | append first second => first.Mentions register ∨ second.Mentions register
  | scope body => body.Mentions register
  | leave _ ret tested => register = ret ∧ register ≠ 0 ∨ register = tested

theorem mentions_leaving {wanted : Bool} {ret tested register : Register} {target : Nat} :
    (leaving wanted ret tested target).Mentions register ↔
      register = ret ∧ register ≠ 0 ∨ register = tested := by
  simp [leaving, Instruction.jump, Instruction.Mentions, Instruction.Writes, eq_comm]

theorem exists_mem_layout {block : Block} {register : Register} {start exit : Nat} :
    (∃ instruction ∈ block.layout start (some exit), instruction.Mentions register) ↔
      block.Mentions register := by
  induction block generalizing start exit with
  | empty => simp [layout, Mentions]
  | single instruction straight => simp [layout, Mentions]
  | append first second ihFirst ihSecond =>
    simp only [layout, List.mem_append, or_and_right, exists_or, ihFirst, ihSecond, Mentions]
  | scope body ih => exact ih
  | leave wanted ret tested =>
    simp only [layout, Option.elim_some, List.mem_singleton, exists_eq_left, Mentions,
      mentions_leaving]

/-- With `inUse` registers taken, the block mentions its own ones and the next `need` ones, and its
jumps test the last of them. -/
structure Takes (inUse : Nat) (own : Nat → Prop) (need : Nat) (block : Block) : Prop where
  mentions : ∀ register,
    block.Mentions register ↔ own register ∨ inUse < register ∧ register ≤ inUse + need
  highest : max inUse block.highest = inUse + need

section Items

variable {items : List α} {part : α → Part} {need : α → Nat} {inUse : Nat} {ret : Nat}
  (each : ∀ item ∈ items,
    Takes (inUse + 1) (· = inUse + 1) (need item) (part item (inUse + 1) (inUse + 1)))

include each

theorem mentions_chain (positive : ret ≠ 0) (wanted : Bool) (register : Nat) :
    (chain wanted ret (inUse + 1) (members inUse (items.map part))).Mentions register ↔
      items ≠ [] ∧ (register = ret ∨
        inUse < register ∧ register ≤ inUse + (1 + largest (items.map need))) := by
  induction items with
  | nil => simp [members, chain, Mentions]
  | cons first rest ih =>
    obtain ⟨eachFirst, eachRest⟩ := List.forall_mem_cons.mp each
    have shape : (chain wanted ret (inUse + 1)
        (members inUse ((first :: rest).map part))).Mentions register ↔
          ((part first (inUse + 1) (inUse + 1)).Mentions register ∨
            (register = ret ∧ register ≠ 0 ∨ register = inUse + 1)) ∨
          (chain wanted ret (inUse + 1) (members inUse (rest.map part))).Mentions register :=
      Iff.rfl
    rw [shape, eachFirst.mentions register, ih eachRest, List.map_cons, largest_cons]
    cases rest with
    | nil =>
      simp only [List.map_nil, largest_nil, ne_eq, not_true_eq_false, false_and, or_false,
        reduceCtorEq, not_false_eq_true, true_and]
      omega
    | cons second rest =>
      simp only [ne_eq, reduceCtorEq, not_false_eq_true, true_and]
      omega

theorem highest_chain (wanted : Bool) :
    max inUse (chain wanted ret (inUse + 1) (members inUse (items.map part))).highest =
      if items = [] then inUse else inUse + (1 + largest (items.map need)) := by
  induction items with
  | nil => exact Nat.max_zero _
  | cons first rest ih =>
    obtain ⟨eachFirst, eachRest⟩ := List.forall_mem_cons.mp each
    have shape : (chain wanted ret (inUse + 1)
        (members inUse ((first :: rest).map part))).highest =
          max (max (part first (inUse + 1) (inUse + 1)).highest (inUse + 1))
            (chain wanted ret (inUse + 1) (members inUse (rest.map part))).highest :=
      rfl
    have here := eachFirst.highest
    have behind := ih eachRest
    rw [if_neg (List.cons_ne_nil _ _), shape, List.map_cons, largest_cons]
    split at behind
    · subst rest
      simp only [List.map_nil, largest_nil] at behind ⊢
      omega
    · omega

theorem takes_search (nonempty : items ≠ []) (positive : ret ≠ 0) (wanted : Bool) :
    Takes inUse (· = ret) (1 + largest (items.map need))
      (search wanted inUse ret (items.map part)) where
  mentions register :=
    (mentions_chain each positive wanted register).trans (and_iff_right nonempty)
  highest := (highest_chain each wanted).trans (if_neg nonempty)

end Items

theorem Takes.append_negation {inUse need : Nat} {ret : Nat} {block : Block}
    (takes : Takes inUse (· = ret) need block) :
    Takes inUse (· = ret) need (block ++ negation ret) where
  mentions register := by
    have own : (negation ret).Mentions register → register = ret := by
      rintro (writes | tested | nothing)
      · exact writes.1.symm
      · exact (Operand.scratch.inj (Option.some.inj tested)).symm
      · cases nothing
    have shape : (block ++ negation ret).Mentions register ↔
        block.Mentions register ∨ (negation ret).Mentions register := Iff.rfl
    rw [shape, takes.mentions register]
    exact ⟨fun either => either.elim id fun negated => .inl (own negated), .inl⟩
  highest := by
    have shape : (block ++ negation ret).highest = max block.highest 0 := rfl
    rw [shape, Nat.max_zero]
    exact takes.highest

theorem Takes.append_empty {inUse need : Nat} {own : Nat → Prop} {block : Block}
    (takes : Takes inUse own need block) : Takes inUse own need (block ++ empty) where
  mentions register := (or_iff_left id).trans (takes.mentions register)
  highest := (congrArg (max inUse) (Nat.max_zero _)).trans takes.highest

section Conditions

variable {items : List α} {part : α → Part} {need : α → Nat} (nonempty : items ≠ [])
  (each : ∀ item ∈ items, ∀ inUse ret, ret ≠ 0 →
    Takes inUse (· = ret) (need item) (part item inUse ret))
  (inUse : Nat) {ret : Nat} (positive : ret ≠ 0)

include nonempty each positive

theorem takes_any : Takes inUse (· = ret) (memberNeed (items.map need))
    (any (items.map part) inUse ret) := by
  match items with
  | [] => exact absurd rfl nonempty
  | [item] => exact each item (List.mem_singleton_self item) inUse ret positive
  | first :: second :: rest =>
    exact takes_search (fun item inside => each item inside _ _ (Nat.succ_ne_zero inUse)) nonempty
      positive true

theorem takes_all : Takes inUse (· = ret) (memberNeed (items.map need))
    (all (items.map part) inUse ret) := by
  match items with
  | [] => exact absurd rfl nonempty
  | [item] => exact each item (List.mem_singleton_self item) inUse ret positive
  | first :: second :: rest =>
    exact (takes_search (fun item inside => each item inside _ _ (Nat.succ_ne_zero inUse)) nonempty
      positive false).append_negation

end Conditions

theorem takes_comparison (cmp : Comparison) (inUse : Nat) {ret : Nat} (positive : ret ≠ 0)
    (left right : Value) : Takes inUse (· = ret) 0 (comparison cmp ret left right) where
  mentions register := by
    have plain (value : Value) : ¬ value.operand = .scratch register := by
      intro same
      cases value <;> cases same
    simp only [comparison, Mentions, Instruction.Mentions, Instruction.Writes,
      Instruction.compare, Option.some.injEq, plain, or_false]
    refine ⟨fun writes => .inl writes.1.symm, ?_⟩
    rintro (rfl | ⟨above, below⟩)
    · exact ⟨rfl, positive⟩
    · exact absurd (Nat.lt_of_lt_of_le above below) (Nat.lt_irrefl _)
  highest := Nat.max_zero _

variable {accepts : String → Bool}

theorem takes_ofCondition {condition : Condition} (sound : condition.defect? accepts = none)
    (inUse : Nat) {ret : Nat} (positive : ret ≠ 0) :
    Takes inUse (· = ret) condition.need (ofCondition condition inUse ret) := by
  induction condition using Condition.induction generalizing inUse ret with
  | scalar left cmp right =>
    rw [Condition.need, ofCondition]
    exact takes_comparison cmp inUse positive left right
  | list left negated values =>
    rw [Condition.defect?] at sound
    split at sound
    · cases sound
    · rename_i filled
      have nonempty : values ≠ [] := fun nothing => filled (by rw [nothing]; rfl)
      have each : ∀ value ∈ values, Takes (inUse + 1) (· = inUse + 1) 0
          (comparison .equal (inUse + 1) left value) := fun value _ =>
        takes_comparison .equal (inUse + 1) (Nat.succ_ne_zero inUse) left value
      have found : Takes inUse (· = ret) (1 + largest (values.map fun _ => 0))
          (search true inUse ret
            (values.map fun value _ ret => comparison .equal ret left value)) :=
        takes_search each nonempty positive true
      rw [largest_zeros] at found
      rw [Condition.need, ofCondition]
      cases negated with
      | true => exact found.append_negation
      | false => exact found.append_empty
  | nested clauses ih =>
    rw [Condition.defect?_nested] at sound
    obtain ⟨nonempty, soundClauses⟩ := members_of_sound sound
    rw [Condition.need_nested, ofCondition_nested]
    refine takes_any nonempty (fun clause inside inUse ret positive => ?_) inUse positive
    obtain ⟨filled, soundConditions⟩ := members_of_sound (soundClauses clause inside)
    exact takes_all filled (fun condition within inUse ret positive =>
      ih clause inside condition within (soundConditions condition within) inUse positive)
      inUse positive

theorem takes_ofStatements_of_each {statements : List Statement} {inUse : Nat}
    (each : ∀ statement ∈ statements,
      Takes inUse (fun _ => False) statement.need (ofStatement inUse statement)) :
    Takes inUse (fun _ => False) (largest (statements.map Statement.need))
      (ofStatements inUse statements) := by
  induction statements with
  | nil =>
    refine ⟨fun register => ?_, Nat.max_zero _⟩
    rw [List.map_nil, largest_nil, false_or]
    exact iff_of_false id (by omega)
  | cons first rest ih =>
    obtain ⟨eachFirst, eachRest⟩ := List.forall_mem_cons.mp each
    have behind := ih eachRest
    refine ⟨fun register => ?_, ?_⟩
    · have here := eachFirst.mentions register
      have there := behind.mentions register
      change (ofStatement inUse first).Mentions register ∨
        (ofStatements inUse rest).Mentions register ↔ _
      rw [List.map_cons, largest_cons, here, there]
      simp only [false_or]
      omega
    · have here := eachFirst.highest
      have there := behind.highest
      change max inUse (max (ofStatement inUse first).highest (ofStatements inUse rest).highest) = _
      rw [List.map_cons, largest_cons]
      omega

theorem takes_ofStatement {statement : Statement} (sound : statement.defect? accepts = none)
    (inUse : Nat) :
    Takes inUse (fun _ => False) statement.need (ofStatement inUse statement) := by
  induction statement using Statement.induction generalizing inUse with
  | rule condition consequences ih =>
    rw [Statement.defect?, Option.or_eq_none_iff, ← Condition.defect?_nested] at sound
    have tested : Takes (inUse + 1) (· = inUse + 1) _ (ofCondition _ (inUse + 1) (inUse + 1)) :=
      takes_ofCondition sound.1 (inUse + 1) (Nat.succ_ne_zero inUse)
    have body := takes_ofStatements_of_each fun statement member =>
      ih statement member (sound_of_statements sound.2 statement member) (inUse + 1)
    rw [Condition.need_nested, ofCondition_nested] at tested
    rw [ofStatement, Statement.need, statementNeeds_eq_map]
    refine ⟨fun register => ?_, ?_⟩
    · have here := tested.mentions register
      have there := body.mentions register
      change (ofExpression condition (inUse + 1) (inUse + 1)).Mentions register ∨
        (register = 0 ∧ register ≠ 0 ∨ register = inUse + 1) ∨
          (ofStatements (inUse + 1) consequences).Mentions register ↔ _
      rw [here, there]
      simp only [false_or]
      omega
    · have here := tested.highest
      have there := body.highest
      change max inUse (max (ofExpression condition (inUse + 1) (inUse + 1)).highest
        (max (inUse + 1) (ofStatements (inUse + 1) consequences).highest)) = _
      omega
  | change score op amount =>
    rw [ofStatement, Statement.need]
    refine ⟨fun register => ?_, Nat.max_zero _⟩
    have plain : ¬ amount.operand = .scratch register := by
      intro same
      cases amount <;> cases same
    simp only [Mentions, Instruction.Mentions, Instruction.Writes, Instruction.change,
      Option.some.injEq, plain, reduceCtorEq, or_false, false_or]
    exact ⟨fun writes => absurd writes.1.symm writes.2, fun bounds => by omega⟩
  | exit =>
    rw [ofStatement, Statement.need]
    refine ⟨fun register => ?_, Nat.max_zero _⟩
    rw [false_or]
    exact iff_of_false (not_mentions_plain .exit register) (by omega)

theorem takes_ofProgram {rules : List Statement} (sound : statementsDefect? accepts rules = none) :
    Takes 0 (fun _ => False) (largest (rules.map Statement.need)) (ofProgram rules) := by
  have body := takes_ofStatements_of_each fun statement member =>
    takes_ofStatement (sound_of_statements sound statement member) 0
  refine ⟨fun register => ?_, (congrArg (max 0) (Nat.max_zero _)).trans body.highest⟩
  exact (or_iff_left (not_mentions_plain .noop register)).trans (body.mentions register)

end Block

namespace Code

open Generator (Confined)

variable {accepts : String → Bool} {rules : List Statement} {code : Code}

/-- Generated code mentions the registers from 1 to the largest need of a statement, which is the
number of registers that the generator tells of. Every call for a condition, a clause or an
expression writes no taken register but its own, and leaves the same registers taken. -/
theorem generate_registers (generated : (generate accepts rules).1 = .ok code) :
    (∀ register, (∃ instruction ∈ code, instruction.Mentions register) ↔
      1 ≤ register ∧ register ≤ largest (rules.map Statement.need)) ∧
    (∀ instructions registers,
      Event.generated instructions registers ∈ (generate accepts rules).2 ↔
        instructions = code.size ∧ registers = largest (rules.map Statement.need)) ∧
    (∀ ret condition, Confined ret (Generator.condition accepts ret condition)) ∧
    (∀ ret clause, Confined ret (Generator.clause accepts ret clause)) ∧
    ∀ ret expression, Confined ret (Generator.expression accepts ret expression) := by
  obtain ⟨sound, shape⟩ := eq_layout_of_generate generated
  have takes := Block.takes_ofProgram sound
  have size : code.size = (Block.ofProgram rules).size := by
    rw [shape, List.size_toArray, Block.length_layout]
  have highest := takes.highest
  rw [Nat.zero_max, Nat.zero_add] at highest
  refine ⟨fun register => ?_, fun instructions registers => ?_, fun ret condition => ?_,
    fun ret clause => ?_, fun ret expression => ?_⟩
  · have mentions := takes.mentions register
    rw [false_or, Nat.zero_add] at mentions
    rw [shape, Block.layout_of_closed (Block.closed_ofProgram rules) 0 none (some 0)]
    simp only [List.mem_toArray]
    exact Block.exists_mem_layout.trans mentions
  · rw [generate_of_sound sound, size, highest]
    simp
  · exact (Generator.careful_condition condition).confined ret
  · exact (Generator.careful_clause fun condition _ =>
      Generator.careful_condition condition).confined ret
  · exact (Generator.careful_expression fun clause _ => Generator.careful_clause fun condition _ =>
      Generator.careful_condition condition).confined ret

theorem generate_registers_nestedRule :
    ∃ code : Code,
      (generate (fun _ => true)
        [.rule [[.scalar (.score "a") .less (.int 1)]]
          [.rule [[.scalar (.var "t") .equal (.string "x")], [.scalar (.int 0) .equal (.int 0)]]
            [.exit]]]).1 = .ok code ∧
      code.size = 9 ∧
      ∀ register, (∃ instruction ∈ code, instruction.Mentions register) ↔
        1 ≤ register ∧ register ≤ 3 := by
  have generated := congrArg Prod.fst (generate_of_sound (rfl : statementsDefect? (fun _ => true)
    [.rule [[.scalar (.score "a") .less (.int 1)]]
      [.rule [[.scalar (.var "t") .equal (.string "x")], [.scalar (.int 0) .equal (.int 0)]]
        [.exit]]] = none))
  exact ⟨_, generated, rfl, (generate_registers generated).1⟩

end Code

end ScoringRules
