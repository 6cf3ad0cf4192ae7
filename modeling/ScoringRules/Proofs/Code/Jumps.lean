import ScoringRules.Proofs.Code.Generation
import ScoringRules.Proofs.Machine.Forward

/-!
Jumps of generated code. All of them lead forward to an instruction, no two of them cross, and so
every run comes to an end: at an exit, at a failure of a comparison, or at the last instruction,
which does nothing.
-/

namespace ScoringRules

namespace Code

def JumpsTo (code : Code) (index target : Nat) : Prop :=
  ∃ instruction, code[index]? = some instruction ∧ instruction.operation.isJump = true ∧
    instruction.right = some (.position target)

/-- Of two jumps, the later one stands behind the target of the first, or leads no further. -/
def Nested (code : Code) : Prop :=
  ∀ p q s t, p < q → code.JumpsTo p s → code.JumpsTo q t → s ≤ q ∨ t ≤ s

theorem mem_zipIdx_toList {code : Code} {index : Nat} {instruction : Instruction} :
    (instruction, index) ∈ code.toList.zipIdx ↔ code[index]? = some instruction := by
  rw [List.mk_mem_zipIdx_iff_getElem?, Array.getElem?_toList]

theorem jumpsTo_iff_jumpsIn {code : Code} {index target : Nat} :
    code.JumpsTo index target ↔ JumpsIn 0 code.toList index target := by
  unfold JumpsTo JumpsIn
  simp only [mem_zipIdx_toList]

variable {accepts : String → Bool} {rules : List Statement} {code : Code}

theorem eq_layout_of_generate (generated : (generate accepts rules).1 = .ok code) :
    statementsDefect? accepts rules = none ∧
      code = ((Block.ofProgram rules).layout 0 none).toArray := by
  cases defect : statementsDefect? accepts rules with
  | some error =>
    rw [generate_of_defect defect] at generated
    exact nomatch generated
  | none =>
    rw [generate_of_sound defect] at generated
    exact ⟨rfl, (Except.ok.inj generated).symm⟩

theorem toList_of_generate (generated : (generate accepts rules).1 = .ok code) :
    code.toList = (Block.ofStatements 0 rules).layout 0 (some (Block.ofStatements 0 rules).size) ++
      [.plain .noop] := by
  obtain ⟨-, rfl⟩ := eq_layout_of_generate generated
  rw [Block.layout_of_closed (Block.closed_ofProgram rules) 0 none
    (some (Block.ofStatements 0 rules).size)]
  rfl

theorem back?_of_generate (generated : (generate accepts rules).1 = .ok code) :
    code.back? = some (.plain .noop) := by
  rw [← Array.getLast?_toList, toList_of_generate generated, List.getLast?_concat]

theorem forward_of_generate (generated : (generate accepts rules).1 = .ok code) :
    code.Forward := by
  intro index instruction placed jumps
  have shape := toList_of_generate generated
  have size : code.size = (Block.ofStatements 0 rules).size + 1 := by
    rw [← Array.length_toList, shape]
    simp
  rw [← mem_zipIdx_toList, shape, List.zipIdx_append, List.mem_append] at placed
  rcases placed with placed | placed
  · obtain ⟨target, leads, ahead, inside⟩ :=
      Block.target_layout placed jumps (Nat.le_of_eq (Nat.zero_add _))
    exact ⟨target, leads, ahead, by omega⟩
  · obtain ⟨rfl, -⟩ := Prod.mk.inj (List.mem_singleton.mp placed)
    exact nomatch jumps

theorem nested_of_generate (generated : (generate accepts rules).1 = .ok code) :
    code.Nested := by
  intro p q s t ordered first second
  obtain ⟨-, rfl⟩ := eq_layout_of_generate generated
  rw [Block.layout_of_closed (Block.closed_ofProgram rules) 0 none
    (some (Block.ofProgram rules).size)] at first second
  rw [jumpsTo_iff_jumpsIn] at first second
  exact Block.nested_layout first second ordered (Nat.le_of_eq (Nat.zero_add _))

theorem ending_ne_unfinished_of_generate (generated : (generate accepts rules).1 = .ok code)
    {env : Environment} {budget : Nat} (enough : code.size < budget) (last : Machine) :
    Machine.ending env code budget .start ≠ .unfinished last :=
  Machine.ending_ne_unfinished (forward_of_generate generated) (Nat.zero_le _)
    (Nat.lt_of_le_of_lt (Nat.sub_le _ _) enough) last

/-- Generated code only runs forward, and comes to an end. -/
theorem generate_runs_forward (generated : (generate accepts rules).1 = .ok code) :
    code.back? = some (.plain .noop) ∧ code.Forward ∧ code.Nested ∧
      ∀ (isMatch : String → String → Bool) (budget : Nat) (vars : Variables),
        ((code.dispatched isMatch budget vars).Pairwise fun a b => a.1 < b.1) ∧
        (code.size < budget → ∀ machine, code.run isMatch budget vars ≠ .unfinished machine) ∧
        (∀ target length index,
          code.run isMatch budget vars ≠ .failed (.jumpOutOfRange target length index)) ∧
        (∀ scores, code.run isMatch budget vars = .finished scores →
          (∀ dispatch ∈ code.dispatched isMatch budget vars, dispatch.2.operation ≠ .exit) →
            (code.dispatched isMatch budget vars).getLast? =
              some (code.size - 1, .plain .noop)) := by
  have forward := forward_of_generate generated
  have last := back?_of_generate generated
  refine ⟨last, forward, nested_of_generate generated, fun isMatch budget vars => ?_⟩
  rw [dispatched_eq_dispatches, run_eq_ending]
  refine ⟨(Machine.dispatches_increase forward budget .start).2, fun enough machine => ?_,
    Machine.ending_ne_outOfRange forward rfl budget .start, fun scores finished onward => ?_⟩
  · exact Machine.ending_ne_unfinished forward (Nat.zero_le _)
      (Nat.lt_of_le_of_lt (Nat.sub_le _ _) enough) machine
  · rw [Array.back?] at last
    have inside := (Array.getElem?_eq_some_iff.mp last).1
    exact Machine.getLast?_dispatches forward last (Nat.zero_lt_of_lt inside) finished onward

theorem generate_runs_forward_nestedRules :
    ∃ code : Code,
      (generate (fun _ => true)
        [.rule [[.list (.var "t") true [.string "x", .string "y"],
            .nested [[.scalar (.score "a") .less (.int 1)], [.scalar (.int 0) .equal (.int 0)]]]]
          [.change "a" .add (.int 1), .rule [[.scalar (.score "a") .greater (.int 3)]] [.exit]]]).1 =
        .ok code ∧
      code.size = 18 ∧ code.Forward ∧ code.Nested ∧
      ∀ vars machine, code.run (fun _ _ => false) 19 vars ≠ .unfinished machine := by
  have generated := congrArg Prod.fst (generate_of_sound (rfl : statementsDefect? (fun _ => true)
    [.rule [[.list (.var "t") true [.string "x", .string "y"],
        .nested [[.scalar (.score "a") .less (.int 1)], [.scalar (.int 0) .equal (.int 0)]]]]
      [.change "a" .add (.int 1), .rule [[.scalar (.score "a") .greater (.int 3)]] [.exit]]] = none))
  obtain ⟨-, forward, nested, runs⟩ := generate_runs_forward generated
  exact ⟨_, generated, rfl, forward, nested,
    fun vars => (runs (fun _ _ => false) 19 vars).2.1 (by decide)⟩

end Code

end ScoringRules
