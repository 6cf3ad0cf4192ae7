import ScoringRules.Proofs.Code.Compilation
import ScoringRules.Proofs.Code.Shape
import ScoringRules.Proofs.Data.General
import ScoringRules.Proofs.Rule.Names

/-!
The names in compiled code. All of them stand in the rules, and therefore are words of the source.
-/

namespace ScoringRules

namespace Operand

def names : Operand → List String
  | score name | var name => [name]
  | _ => []

end Operand

def Instruction.names (instruction : Instruction) : List String :=
  instruction.left.toList.flatMap Operand.names ++ instruction.right.toList.flatMap Operand.names

namespace Block

theorem names_operand (value : Value) : value.operand.names = value.names := by
  cases value <;> rfl

theorem names_amount (amount : Amount) : amount.operand.names = amount.names := by
  cases amount <;> rfl

theorem names_compare (operation : Operation) (ret : Register) (left right : Operand) :
    (Instruction.compare operation ret left right).names = left.names ++ right.names := by
  simp [Instruction.names, Instruction.compare]

variable {names : List String}

def Named (names : List String) (block : Block) : Prop :=
  block.Every fun instruction => instruction.names ⊆ names

theorem named_comparison (cmp : Comparison) (ret : Register) {left right : Value}
    (inside : left.names ++ right.names ⊆ names) :
    (comparison cmp ret left right).Named names := by
  change (Instruction.compare _ _ _ _).names ⊆ names
  rwa [names_compare, names_operand, names_operand]

theorem named_negation (ret : Register) : (negation ret).Named names :=
  List.nil_subset _

section Items

variable {parts : List Part} (each : ∀ part ∈ parts, ∀ inUse ret, (part inUse ret).Named names)
  (inUse : Nat) (ret : Register)

include each

theorem named_search (wanted : Bool) : (search wanted inUse ret parts).Named names := by
  refine every_chain (fun block member => ?_) wanted ret (inUse + 1)
  obtain ⟨part, inside, rfl⟩ := List.mem_map.mp member
  exact each part inside _ _

theorem named_any : (any parts inUse ret).Named names := by
  match parts with
  | [] => trivial
  | [part] => exact each part (List.mem_singleton_self part) inUse ret
  | _ :: _ :: _ => exact named_search each inUse ret true

theorem named_all : (all parts inUse ret).Named names := by
  match parts with
  | [] => trivial
  | [part] => exact each part (List.mem_singleton_self part) inUse ret
  | _ :: _ :: _ => exact ⟨named_search each inUse ret false, named_negation ret⟩

end Items

theorem named_ofCondition {condition : Condition} (inside : condition.names ⊆ names)
    (inUse : Nat) (ret : Register) : (ofCondition condition inUse ret).Named names := by
  induction condition using Condition.induction generalizing inUse ret with
  | scalar left cmp right =>
    rw [Condition.names] at inside
    rw [ofCondition]
    exact named_comparison cmp ret inside
  | list left negated members =>
    rw [Condition.names, List.append_subset] at inside
    obtain ⟨insideLeft, insideMembers⟩ := inside
    have found : (search true inUse ret (members.map fun value _ ret =>
        comparison .equal ret left value)).Named names := by
      refine named_search (fun part member => ?_) inUse ret true
      obtain ⟨value, within, rfl⟩ := List.mem_map.mp member
      exact fun _ ret => named_comparison .equal ret (List.append_subset.mpr
        ⟨insideLeft, subset_of_flatMap_subset insideMembers within⟩)
    rw [ofCondition]
    cases negated with
    | true => exact ⟨found, named_negation ret⟩
    | false => exact ⟨found, trivial⟩
  | nested clauses ih =>
    rw [Condition.names, clauseNames_eq_flatMap] at inside
    rw [ofCondition_nested]
    refine named_any (fun part member => ?_) inUse ret
    obtain ⟨clause, insideClause, rfl⟩ := List.mem_map.mp member
    refine fun inUse ret => named_all (fun part member => ?_) inUse ret
    obtain ⟨condition, within, rfl⟩ := List.mem_map.mp member
    exact fun inUse ret => ih clause insideClause condition within
      (subset_of_flatMap_subset (subset_of_flatMap_subset inside insideClause) within) inUse ret

theorem named_ofStatements_of_each {statements : List Statement} {inUse : Nat}
    (each : ∀ statement ∈ statements, statement.names ⊆ names →
      (ofStatement inUse statement).Named names) (inside : statementNames statements ⊆ names) :
    (ofStatements inUse statements).Named names := by
  rw [statementNames_eq_flatMap] at inside
  exact ofStatements_of_each trivial (fun _ _ named namedToo => ⟨named, namedToo⟩)
    fun statement member => each statement member (subset_of_flatMap_subset inside member)

theorem named_ofStatement {statement : Statement} (inside : statement.names ⊆ names)
    (inUse : Nat) : (ofStatement inUse statement).Named names := by
  induction statement using Statement.induction generalizing inUse with
  | rule condition consequences ih =>
    rw [Statement.names, List.append_subset] at inside
    have tested : (ofCondition (.nested condition) (inUse + 1) (inUse + 1)).Named names :=
      named_ofCondition (by rw [Condition.names]; exact inside.1) _ _
    rw [ofCondition_nested] at tested
    rw [ofStatement]
    exact ⟨tested, trivial, named_ofStatements_of_each
      (fun statement member within => ih statement member within _) inside.2⟩
  | change score op amount =>
    rw [Statement.names] at inside
    rw [ofStatement]
    change (Instruction.compare op.operation 0 (.score score) amount.operand).names ⊆ names
    rwa [names_compare, names_amount]
  | exit =>
    rw [ofStatement]
    exact List.nil_subset _

theorem named_ofProgram (rules : List Statement) : (ofProgram rules).Named (statementNames rules) :=
  ⟨named_ofStatements_of_each (fun _ _ inside => named_ofStatement inside 0)
    (List.Subset.refl _), List.nil_subset _⟩

end Block

namespace Code

variable {accepts : String → Bool} {source : String} {tokens : List Token}
  {rules : List Statement} {code : Code} {instruction : Instruction}

theorem names_of_generate (generated : (generate accepts rules).1 = .ok code)
    (member : instruction ∈ code) : instruction.names ⊆ statementNames rules := by
  obtain ⟨sound, shape⟩ := eq_layout_of_generate generated
  rw [Block.layout_of_closed (Block.closed_ofProgram rules) 0 none (some code.size)] at shape
  rw [shape, List.mem_toArray] at member
  rcases (Block.named_ofProgram rules).of_mem_layout member with
    inside | ⟨wanted, ret, tested, target, rfl⟩
  · exact inside
  · exact List.nil_subset _

theorem Reads.isName (reads : Reads source tokens rules) {name : String}
    (member : name ∈ statementNames rules) : IsName name.toList := by
  obtain ⟨lexes, inner, finish, rfl, -, -, phrase⟩ := reads_iff.mp reads
  obtain ⟨token, inside, named⟩ := List.mem_filterMap.mp
    (Words.statements rules inner phrase member)
  obtain ⟨kind, location⟩ := token
  cases kind with
  | keyword word =>
    obtain rfl := Option.some.inj named
    exact isName_text word
  | identifier other =>
    obtain rfl := Option.some.inj named
    obtain ⟨_, text, _, -, ⟨rfl, isName, -⟩, -⟩ :=
      lexes.spelled (List.mem_append_left _ inside) (by simp)
    exact isName
  | symbol | integer | string | regex | endOfInput => cases named

theorem isName_of_compile (compiled : compile accepts source = .ok code)
    (member : instruction ∈ code) {name : String} (named : name ∈ instruction.names) :
    IsName name.toList := by
  obtain ⟨tokens, rules, reads, generated⟩ := reads_of_compile compiled
  exact reads.isName (names_of_generate generated member named)

end Code

end ScoringRules
