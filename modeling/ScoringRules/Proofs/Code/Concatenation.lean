import ScoringRules.Proofs.Code.Compilation
import ScoringRules.Proofs.Code.Shape
import ScoringRules.Proofs.Rule.Relocation

/-!
Sources one after the other, each on lines of its own. Their tokens, their rules and their code
stand one after the other too: nothing of the first source reaches into the second, whose code is
the same but for the place at which it stands.
-/

namespace ScoringRules

def Operand.shift (distance : Nat) : Operand → Operand
  | position index => position (index + distance)
  | operand => operand

def Instruction.shift (distance : Nat) (instruction : Instruction) : Instruction :=
  { instruction with
    left := instruction.left.map (Operand.shift distance)
    right := instruction.right.map (Operand.shift distance) }

theorem Value.shift_operand (distance : Nat) (value : Value) :
    value.operand.shift distance = value.operand := by
  cases value <;> rfl

theorem Amount.shift_operand (distance : Nat) (amount : Amount) :
    amount.operand.shift distance = amount.operand := by
  cases amount <;> rfl

theorem Instruction.Made.shift {instruction : Instruction} (made : instruction.Made)
    (distance : Nat) : instruction.shift distance = instruction := by
  cases made with
  | comparison cmp ret left right =>
    simp only [Instruction.shift, compare, Option.map_some, Value.shift_operand]
  | change score op amount =>
    simp only [Instruction.shift, Instruction.change, Option.map_some, Amount.shift_operand]
    rfl
  | negation | exit | noop => rfl

namespace Block

open Instruction (Made)

theorem layout_shift {block : Block} (made : block.Every Made) (start distance : Nat)
    (exit : Option Nat) : block.layout (start + distance) (exit.map (· + distance)) =
      (block.layout start exit).map (Instruction.shift distance) := by
  induction block generalizing start exit with
  | empty => rfl
  | single instruction straight =>
    rw [layout, layout, List.map_singleton, Made.shift made]
  | append first second ihFirst ihSecond =>
    rw [layout, layout, List.map_append, ← ihFirst made.1, ← ihSecond made.2,
      Nat.add_right_comm]
  | scope body ih =>
    rw [layout, layout, ← ih made, Option.map_some, Nat.add_right_comm]
  | leave wanted ret tested => cases exit <;> rfl

theorem layout_ofStatements_append (inUse : Nat) (first second : List Statement) (start : Nat)
    (exit : Option Nat) : (ofStatements inUse (first ++ second)).layout start exit =
      (ofStatements inUse first).layout start exit ++
        (ofStatements inUse second).layout (start + (ofStatements inUse first).size) exit := by
  induction first generalizing start with
  | nil => rfl
  | cons statement rest ih =>
    change _ ++ (ofStatements inUse (rest ++ second)).layout _ exit =
      (_ ++ (ofStatements inUse rest).layout _ exit) ++
        (ofStatements inUse second).layout (start + (_ + _)) exit
    rw [ih, List.append_assoc, Nat.add_assoc]

end Block

namespace Code

variable {accepts : String → Bool} {first second : String} {tokens others : List Token}
  {rules statements : List Statement}

/-- How places in a source move when another source stands in front of it. -/
def below (first : String) : Location → Location :=
  Location.down (first.toList.length + 1) (first.toList.count '\n' + 1)

theorem reads_append (readsFirst : Reads first tokens rules)
    (readsSecond : Reads second others statements) :
    Reads (first ++ "\n" ++ second) (tokens.dropLast ++ others.map (Token.relocate (below first)))
      (rules ++ statements.map (Statement.relocate (below first))) := by
  obtain ⟨lexesFirst, inner, finish, rfl, -, inside, memberFirst⟩ := reads_iff.mp readsFirst
  obtain ⟨lexesSecond, others, last, rfl, ends, insideToo, memberSecond⟩ :=
    reads_iff.mp readsSecond
  rw [List.dropLast_concat, List.map_append, List.map_singleton, ← List.append_assoc, reads_iff]
  refine ⟨?_, _, _, rfl, ends, ?_, ?_⟩
  · have moved := lexesSecond.relocate (Location.down_step (first.toList.length + 1)
      (first.toList.count '\n' + 1))
    have both := lexesFirst.append_line (by
      rw [Cursor.ofString, Location.after_line]
      exact moved)
    rw [List.dropLast_concat, List.map_append, ← List.append_assoc] at both
    unfold Cursor.ofString
    rwa [String.toList_append, String.toList_append, List.append_assoc]
  · intro token member
    rcases List.mem_append.mp member with member | member
    · exact inside token member
    · obtain ⟨other, within, rfl⟩ := List.mem_map.mp member
      exact insideToo other within
  · rw [Grammar.statements, List.map_append, List.prod_append]
    exact Language.append_mem_mul memberFirst
      (Relocates.statements statements others memberSecond)

theorem findSome?_relocate (f : Location → Location) (tokens : List Token)
    (sound : tokens.findSome? (Token.defect? accepts) = none) :
    (tokens.map (Token.relocate f)).findSome? (Token.defect? accepts) = none := by
  simp only [List.findSome?_eq_none_iff, Token.defect?_eq_none_iff, List.forall_mem_map,
    Token.kind_relocate] at sound ⊢
  exact sound

theorem exists_compile_append {a b : Code} (readsFirst : Reads first tokens rules)
    (compiledFirst : compile accepts first = .ok a) (readsSecond : Reads second others statements)
    (compiledSecond : compile accepts second = .ok b) :
    ∃ code, compile accepts (first ++ "\n" ++ second) = .ok code := by
  have soundFirst := (exists_compile_iff readsFirst).mp ⟨a, compiledFirst⟩
  have soundSecond := (exists_compile_iff readsSecond).mp ⟨b, compiledSecond⟩
  rw [exists_compile_iff (reads_append readsFirst readsSecond), List.findSome?_append,
    findSome?_relocate _ _ soundSecond, Option.or_none]
  rw [List.findSome?_eq_none_iff] at soundFirst ⊢
  exact fun token member => soundFirst token (List.dropLast_subset _ member)

theorem toList_eq_layout {code : Code} (generated : (generate accepts rules).1 = .ok code) :
    code.toList = (Block.ofStatements 0 rules).layout 0 none ++ [.plain .noop] := by
  obtain ⟨-, rfl⟩ := eq_layout_of_generate generated
  rfl

/-- Two sources that compile also do so one after the other. The last instruction of the first one
goes, and jumps of the second one lead as far down as its code has moved. -/
theorem compile_append {a b : Code} (compiledFirst : compile accepts first = .ok a)
    (compiledSecond : compile accepts second = .ok b) :
    a.back? = some (.plain .noop) ∧
      compile accepts (first ++ "\n" ++ second) =
        .ok (a.pop ++ b.map (Instruction.shift (a.size - 1))) := by
  obtain ⟨tokens, rules, readsFirst, generatedFirst⟩ := reads_of_compile compiledFirst
  obtain ⟨others, statements, readsSecond, generatedSecond⟩ := reads_of_compile compiledSecond
  obtain ⟨code, compiled⟩ :=
    exists_compile_append readsFirst compiledFirst readsSecond compiledSecond
  have generated := (compile_of_reads (reads_append readsFirst readsSecond)).symm.trans compiled
  refine ⟨back?_of_generate generatedFirst, compiled.trans (congrArg Except.ok ?_)⟩
  have listedFirst := toList_eq_layout generatedFirst
  have size : a.size - 1 = (Block.ofStatements 0 rules).size := by
    rw [← Array.length_toList, listedFirst, List.length_append, Block.length_layout]
    rfl
  have made := Block.made_ofStatements (eq_layout_of_generate generatedSecond).1 0
  have moved := Block.layout_shift made 0 (Block.ofStatements 0 rules).size none
  apply Array.ext'
  rw [toList_eq_layout generated, Array.toList_append, Array.toList_pop, Array.toList_map,
    listedFirst, toList_eq_layout generatedSecond, size, List.dropLast_concat, List.map_append,
    ← moved, Block.layout_ofStatements_append, Block.ofStatements_relocate, List.append_assoc]
  rfl

theorem compile_append_behindComment :
    compile (fun _ => true) "exit # stop" = .ok #[.plain .exit, .plain .noop] ∧
      compile (fun _ => true) "when 1 < 2 then exit done" =
        .ok #[.compare .isLess 1 (.int 1) (.int 2), .jump .jumpIfFalse 0 1 3, .plain .exit,
          .plain .noop] ∧
      compile (fun _ => true) ("exit # stop" ++ "\n" ++ "when 1 < 2 then exit done") =
        .ok #[.plain .exit, .compare .isLess 1 (.int 1) (.int 2), .jump .jumpIfFalse 0 1 4,
          .plain .exit, .plain .noop] := by
  have compiledFirst : compile (fun _ => true) "exit # stop" =
      .ok #[.plain .exit, .plain .noop] := by cbv
  have compiledSecond : compile (fun _ => true) "when 1 < 2 then exit done" =
      .ok #[.compare .isLess 1 (.int 1) (.int 2), .jump .jumpIfFalse 0 1 3, .plain .exit,
        .plain .noop] := by cbv
  obtain ⟨-, compiled⟩ := compile_append compiledFirst compiledSecond
  exact ⟨compiledFirst, compiledSecond, compiled.trans (by cbv)⟩

end Code

end ScoringRules
