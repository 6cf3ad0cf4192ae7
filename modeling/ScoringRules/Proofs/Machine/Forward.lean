import ScoringRules.Proofs.Machine.Turn

/-!
Runs of code whose jumps all lead forward. Every turn moves on, so the indices of the dispatched
instructions increase, a budget above the size of the code is enough, and no target is out of
range.
-/

namespace ScoringRules

def Code.Forward (code : Code) : Prop :=
  ∀ (index : Nat) (instruction : Instruction), code[index]? = some instruction →
    instruction.operation.isJump = true →
      ∃ target, instruction.right = some (.position target) ∧ index < target ∧ target < code.size

namespace Machine

variable {env : Environment} {code : Code}

theorem Moves.pc_eq_of_proceed {machine next : Machine} {instruction : Instruction}
    (moves : Moves env machine instruction next .proceed) : next.pc = machine.pc := by
  cases moves with
  | idle => rfl
  | write value => exact pc_writeRegister machine instruction.ret value
  | change => rfl

theorem turn_forward (forward : code.Forward) {machine next : Machine}
    (went : machine.turn env code = .next next) :
    machine.pc < next.pc ∧ next.pc ≤ code.size ∧
      (next.pc = code.size → machine.pc + 1 = code.size) := by
  obtain ⟨instruction, after, fetched, ⟨executed, rfl⟩ | ⟨executed, rfl⟩⟩ := turn_eq_next went
  · have inside := (Array.getElem?_eq_some_iff.mp fetched).1
    have stayed := (execute_moves executed).pc_eq_of_proceed
    dsimp only
    omega
  · cases execute_moves executed with
    | jump target jumps leads _ =>
      obtain ⟨aim, leadsToo, ahead, below⟩ := forward _ _ fetched jumps
      obtain rfl : target = aim := by simpa [leads] using leadsToo
      dsimp only
      omega

theorem turn_ne_outOfRange (forward : code.Forward) (length : env.length = code.size)
    (machine : Machine) (target size index : Nat) :
    machine.turn env code ≠ .stop (.failed (.jumpOutOfRange target size index)) := by
  intro stopped
  unfold turn at stopped
  split at stopped
  · exact nomatch stopped
  · rename_i instruction fetched
    split at stopped
    · rename_i error executed
      obtain rfl : error = .jumpOutOfRange target size index := by simpa using stopped
      rcases execute_eq_error executed with ⟨_, _, invalid⟩ | ⟨jumps, aim, leads, outside, -⟩
      · exact nomatch invalid
      · obtain ⟨_, leadsToo, -, below⟩ := forward _ _ fetched jumps
        rw [leads] at leadsToo
        cases leadsToo
        omega
    all_goals exact nomatch stopped

theorem dispatches_increase (forward : code.Forward) (budget : Nat) (machine : Machine) :
    (∀ dispatch ∈ dispatches env code budget machine, machine.pc ≤ dispatch.1) ∧
      (dispatches env code budget machine).Pairwise fun a b => a.1 < b.1 := by
  induction budget generalizing machine with
  | zero => exact ⟨List.forall_mem_nil _, List.Pairwise.nil⟩
  | succ budget ih =>
    unfold dispatches
    cases code[machine.pc]? with
    | none => exact ⟨List.forall_mem_nil _, List.Pairwise.nil⟩
    | some instruction =>
      dsimp only
      cases went : machine.turn env code with
      | stop result =>
        exact ⟨by simp, List.pairwise_singleton _ _⟩
      | next next =>
        obtain ⟨ahead, -⟩ := turn_forward forward went
        obtain ⟨behind, increasing⟩ := ih next
        refine ⟨?_, List.pairwise_cons.mpr ⟨?_, increasing⟩⟩
        · rintro dispatch (_ | ⟨_, member⟩)
          · exact Nat.le_refl _
          · exact Nat.le_trans (Nat.le_of_lt ahead) (behind dispatch member)
        · exact fun dispatch member => Nat.lt_of_lt_of_le ahead (behind dispatch member)

/-- A budget above the number of instructions ahead is never used up. -/
theorem ending_ne_unfinished (forward : code.Forward) {budget : Nat} {machine : Machine}
    (inside : machine.pc ≤ code.size) (enough : code.size - machine.pc < budget)
    (last : Machine) : ending env code budget machine ≠ .unfinished last := by
  induction budget generalizing machine with
  | zero => exact absurd enough (Nat.not_lt_zero _)
  | succ budget ih =>
    unfold ending
    cases went : machine.turn env code with
    | next next =>
      obtain ⟨ahead, below, -⟩ := turn_forward forward went
      exact ih below (by omega)
    | stop result =>
      rintro rfl
      exact turn_ne_unfinished machine last went

theorem ending_of_stopped (forward : code.Forward) {budget : Nat} {machine last : Machine}
    (inside : machine.pc ≤ code.size) (enough : code.size - machine.pc < budget) {result : Ending}
    (reaches : Reaches env code machine last) (stopped : last.turn env code = .stop result) :
    ending env code budget machine = result := by
  obtain ⟨turns, same⟩ := ending_of_reaches reaches
  have onward : ending env code (budget + (1 + turns)) machine = result := by
    rw [← Nat.add_assoc, same, ending, stopped]
  rw [← onward]
  exact (ending_add _ (ending_ne_unfinished forward inside enough)).symm

theorem ending_ne_outOfRange (forward : code.Forward) (length : env.length = code.size)
    (budget : Nat) (machine : Machine) (target size index : Nat) :
    ending env code budget machine ≠ .failed (.jumpOutOfRange target size index) := by
  induction budget generalizing machine with
  | zero => exact nofun
  | succ budget ih =>
    unfold ending
    cases went : machine.turn env code with
    | next next => exact ih next
    | stop result =>
      rintro rfl
      exact turn_ne_outOfRange forward length machine target size index went

theorem dispatches_of_outside {machine : Machine} (outside : code.size ≤ machine.pc)
    (budget : Nat) : dispatches env code budget machine = [] := by
  cases budget with
  | zero => rfl
  | succ budget => rw [dispatches, Array.getElem?_eq_none outside]

theorem exit_of_finished {machine : Machine} {instruction : Instruction} {scores : Scores}
    (fetched : code[machine.pc]? = some instruction)
    (stopped : machine.turn env code = .stop (.finished scores)) :
    instruction.operation = .exit := by
  unfold turn at stopped
  rw [fetched] at stopped
  dsimp only at stopped
  split at stopped
  · exact nomatch stopped
  · exact nomatch stopped
  · exact nomatch stopped
  · rename_i next executed
    cases execute_moves executed with
    | halt exit => exact exit

theorem getLast?_dispatches (forward : code.Forward) {final : Instruction}
    (last : code[code.size - 1]? = some final) {budget : Nat} {machine : Machine}
    (inside : machine.pc < code.size) {scores : Scores}
    (finished : ending env code budget machine = .finished scores)
    (onward : ∀ dispatch ∈ dispatches env code budget machine,
      dispatch.2.operation ≠ .exit) :
    (dispatches env code budget machine).getLast? = some (code.size - 1, final) := by
  induction budget generalizing machine with
  | zero => exact nomatch finished
  | succ budget ih =>
    have fetched : code[machine.pc]? = some code[machine.pc] := Array.getElem?_eq_getElem inside
    unfold dispatches at onward ⊢
    unfold ending at finished
    rw [fetched] at onward ⊢
    dsimp only at onward ⊢
    cases went : machine.turn env code with
    | next next =>
      rw [went] at finished onward
      obtain ⟨-, below, atEnd⟩ := turn_forward forward went
      obtain ⟨-, onward⟩ := List.forall_mem_cons.mp onward
      dsimp only at finished onward ⊢
      by_cases there : next.pc < code.size
      · have found := ih there finished onward
        rw [List.getLast?_cons, found]
        rfl
      · -- No jump goes behind the last instruction, so it is this one that leads out of the code.
        have place : machine.pc = code.size - 1 := by omega
        rw [← place, fetched] at last
        rw [dispatches_of_outside (Nat.le_of_not_lt there), List.getLast?_singleton, ← place,
          Option.some.inj last]
    | stop result =>
      rw [went] at finished
      dsimp only at finished
      subst finished
      exact absurd (exit_of_finished fetched went) (onward _ List.mem_cons_self)

end Machine

end ScoringRules
