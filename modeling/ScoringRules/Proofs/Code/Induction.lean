import ScoringRules.Proofs.Code.Translation

/-!
Induction on structured code that comes from rules without a defect, by the ways in which it is put
together: a search through parts that are not none, a negation behind it, a jump past a rule.
-/

namespace ScoringRules

namespace Block

section Conditions

variable {accepts : String → Bool} {P : Register → Block → Prop}
  (ofChain : ∀ wanted ret tested blocks, ret ≠ 0 → blocks ≠ [] →
    (∀ block ∈ blocks, P tested block) → P ret (scope (chain wanted ret tested blocks)))
  (negated : ∀ ret block, ret ≠ 0 → P ret block → P ret (block ++ negation ret))

section Parts

variable {parts : List Part} (nonempty : parts ≠ [])
  (each : ∀ part ∈ parts, ∀ inUse ret, ret ≠ 0 → P ret (part inUse ret))
  (inUse : Nat) {ret : Register} (positive : ret ≠ 0)

include ofChain nonempty each positive

theorem search_induction (wanted : Bool) : P ret (search wanted inUse ret parts) := by
  refine ofChain wanted ret _ _ positive (mt List.map_eq_nil_iff.mp nonempty) fun block member => ?_
  obtain ⟨part, inside, rfl⟩ := List.mem_map.mp member
  exact each part inside _ _ (Nat.succ_ne_zero inUse)

theorem any_induction : P ret (any parts inUse ret) := by
  match parts with
  | [] => exact absurd rfl nonempty
  | [part] => exact each part (List.mem_singleton_self part) inUse ret positive
  | _ :: _ :: _ => exact search_induction ofChain nonempty each inUse positive true

include negated in
theorem all_induction : P ret (all parts inUse ret) := by
  match parts with
  | [] => exact absurd rfl nonempty
  | [part] => exact each part (List.mem_singleton_self part) inUse ret positive
  | _ :: _ :: _ =>
    exact negated ret _ positive (search_induction ofChain nonempty each inUse positive false)

end Parts

include ofChain negated

/-- What holds of comparisons, and carries over to the ways in which code for conditions is put
together, holds of the code of a condition without a defect. -/
theorem ofCondition_induction
    (ofComparison : ∀ cmp ret left right, ret ≠ 0 → P ret (comparison cmp ret left right))
    (plain : ∀ ret block, P ret block → P ret (block ++ empty)) {condition : Condition}
    (sound : condition.defect? accepts = none) (inUse : Nat) {ret : Register}
    (positive : ret ≠ 0) : P ret (ofCondition condition inUse ret) := by
  induction condition using Condition.induction generalizing inUse ret with
  | scalar left cmp right =>
    rw [ofCondition]
    exact ofComparison cmp ret left right positive
  | list left isNegated values =>
    rw [Condition.defect?] at sound
    split at sound
    · cases sound
    · rename_i filled
      have found : P ret (search true inUse ret
          (values.map fun value _ ret => comparison .equal ret left value)) := by
        refine search_induction ofChain (fun nothing => filled ?_) (fun part member => ?_) inUse
          positive true
        · rw [List.map_eq_nil_iff.mp nothing]
          rfl
        · obtain ⟨value, -, rfl⟩ := List.mem_map.mp member
          exact fun _ ret => ofComparison .equal ret left value
      rw [ofCondition]
      cases isNegated with
      | true => exact negated ret _ positive found
      | false => exact plain ret _ found
  | nested clauses ih =>
    rw [Condition.defect?_nested] at sound
    obtain ⟨nonempty, soundClauses⟩ := members_of_sound sound
    rw [ofCondition_nested]
    refine any_induction ofChain (mt List.map_eq_nil_iff.mp nonempty) (fun part member => ?_) inUse
      positive
    obtain ⟨clause, inside, rfl⟩ := List.mem_map.mp member
    obtain ⟨filled, soundConditions⟩ := members_of_sound (soundClauses clause inside)
    intro inUse ret positive
    refine all_induction ofChain negated (mt List.map_eq_nil_iff.mp filled) (fun part member => ?_)
      inUse positive
    obtain ⟨condition, within, rfl⟩ := List.mem_map.mp member
    exact fun inUse ret =>
      ih clause inside condition within (soundConditions condition within) inUse

end Conditions

section Statements

variable {accepts : String → Bool} {P : Block → Prop} (nothing : P empty)
  (both : ∀ first second, P first → P second → P (first ++ second))

include nothing both

theorem ofStatements_of_each {statements : List Statement} {inUse : Nat}
    (each : ∀ statement ∈ statements, P (ofStatement inUse statement)) :
    P (ofStatements inUse statements) := by
  induction statements with
  | nil => exact nothing
  | cons first rest ih =>
    obtain ⟨eachFirst, eachRest⟩ := List.forall_mem_cons.mp each
    exact both _ _ eachFirst (ih eachRest)

variable
  (ofRule : ∀ condition inUse body, (Condition.nested condition).defect? accepts = none → P body →
    P (ofCondition (.nested condition) (inUse + 1) (inUse + 1) ++
      scope (leave false 0 (inUse + 1) ++ body)))
  (ofChange : ∀ (score : String) (op : ScoreOp) (amount : Amount) straight,
    P (single (.change op.operation score amount.operand) straight))
  (ofExit : P (single (.plain .exit) rfl))

include ofRule ofChange ofExit

theorem ofStatement_induction {statement : Statement} (sound : statement.defect? accepts = none)
    (inUse : Nat) : P (ofStatement inUse statement) := by
  induction statement using Statement.induction generalizing inUse with
  | rule condition consequences ih =>
    rw [Statement.defect?, Option.or_eq_none_iff, ← Condition.defect?_nested] at sound
    rw [ofStatement, ← ofCondition_nested]
    exact ofRule condition inUse _ sound.1 (ofStatements_of_each nothing both
      fun statement member => ih statement member (sound_of_statements sound.2 statement member) _)
  | change score op amount =>
    rw [ofStatement]
    exact ofChange score op amount _
  | exit =>
    rw [ofStatement]
    exact ofExit

/-- What holds of the code of changes and of exits, and carries over to rules and to sequences,
holds of the code of statements without a defect. -/
theorem ofStatements_induction {statements : List Statement}
    (sound : statementsDefect? accepts statements = none) (inUse : Nat) :
    P (ofStatements inUse statements) :=
  ofStatements_of_each nothing both fun statement member =>
    ofStatement_induction nothing both ofRule ofChange ofExit
      (sound_of_statements sound statement member) inUse

end Statements

end Block

end ScoringRules
