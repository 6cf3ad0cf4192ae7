import ScoringRules.Machine.Run
import ScoringRules.Proofs.Machine.Move
import Mathlib.Logic.Relation

/-!
The dispatch loop, one turn at a time. How a run ends and what it dispatches depend on the
machine alone, neither on the observer nor on what was counted before.
-/

namespace ScoringRules

inductive Turn where
  | next (machine : Machine)
  | stop (ending : Ending)

def Event.dispatch? : Event → Option (Nat × Instruction)
  | .dispatched index instruction => some (index, instruction)
  | _ => none

namespace Machine

section Loop

variable (env : Environment) (code : Code)

def turn (machine : Machine) : Turn :=
  match code[machine.pc]? with
  | none => .stop (.finished machine.scores)
  | some instruction =>
    match machine.execute env instruction with
    | .error error => .stop (.failed error)
    | .ok (next, .proceed) => .next { next with pc := next.pc + 1 }
    | .ok (next, .jumped) => .next next
    | .ok (next, .halted) => .stop (.finished next.scores)

def ending : (budget : Nat) → Machine → Ending
  | 0, machine => .unfinished machine
  | budget + 1, machine =>
    match machine.turn env code with
    | .next machine => ending budget machine
    | .stop result => result

def dispatches : (budget : Nat) → Machine → List (Nat × Instruction)
  | 0, _ => []
  | budget + 1, machine =>
    match code[machine.pc]? with
    | none => []
    | some instruction =>
      (machine.pc, instruction) ::
        match machine.turn env code with
        | .next machine => dispatches budget machine
        | .stop _ => []

/-- Some number of turns leads from one machine to the other. -/
def Reaches : Machine → Machine → Prop :=
  Relation.ReflTransGen fun machine next => machine.turn env code = .next next

end Loop

variable {env : Environment} {code : Code}

theorem fst_runFrom (observe : σ → Event → σ) (budget count : Nat) (machine : Machine) (seen : σ) :
    (runFrom observe env code budget count machine seen).1 = ending env code budget machine := by
  induction budget generalizing count machine seen with
  | zero => rfl
  | succ budget ih =>
    unfold runFrom ending turn
    cases code[machine.pc]? with
    | none => rfl
    | some instruction =>
      dsimp only
      rcases machine.execute env instruction with _ | ⟨next, _ | _ | _⟩
      · rfl
      · exact ih _ _ _
      · exact ih _ _ _
      · rfl

theorem snd_runFrom (budget count : Nat) (machine : Machine) (seen : List Event) :
    (runFrom (fun history event => event :: history) env code budget count machine
        seen).2.reverse.filterMap Event.dispatch? =
      seen.reverse.filterMap Event.dispatch? ++ dispatches env code budget machine := by
  induction budget generalizing count machine seen with
  | zero => simp [runFrom, dispatches]
  | succ budget ih =>
    unfold runFrom dispatches turn
    cases code[machine.pc]? with
    | none => simp [Event.dispatch?]
    | some instruction =>
      dsimp only
      rcases machine.execute env instruction with _ | ⟨next, _ | _ | _⟩
      · simp [Event.dispatch?]
      · simp [ih, Event.dispatch?]
      · simp [ih, Event.dispatch?]
      · simp [Event.dispatch?]

theorem ending_add {budget : Nat} {machine : Machine} (more : Nat)
    (finished : ∀ last, ending env code budget machine ≠ .unfinished last) :
    ending env code (budget + more) machine = ending env code budget machine := by
  induction budget generalizing machine with
  | zero => exact absurd rfl (finished machine)
  | succ budget ih =>
    rw [Nat.succ_add_eq_add_succ, Nat.add_succ]
    unfold ending at finished ⊢
    cases went : machine.turn env code with
    | next next =>
      rw [went] at finished
      exact ih finished
    | stop result => rfl

theorem turn_eq_failed {machine : Machine} {error : RuntimeError}
    (failed : machine.turn env code = .stop (.failed error)) :
    ∃ instruction, code[machine.pc]? = some instruction ∧
      machine.execute env instruction = .error error := by
  unfold turn at failed
  split at failed
  · exact nomatch failed
  · rename_i instruction fetched
    split at failed
    · rename_i executed
      cases failed
      exact ⟨instruction, fetched, executed⟩
    all_goals exact nomatch failed

theorem turn_eq_next {machine next : Machine} (went : machine.turn env code = .next next) :
    ∃ instruction after, code[machine.pc]? = some instruction ∧
      (machine.execute env instruction = .ok (after, .proceed) ∧
          next = { after with pc := after.pc + 1 } ∨
        machine.execute env instruction = .ok (after, .jumped) ∧ next = after) := by
  unfold turn at went
  split at went
  · cases went
  · rename_i instruction fetched
    refine ⟨instruction, ?_⟩
    split at went
    · cases went
    · rename_i after executed
      exact ⟨after, fetched, .inl ⟨executed, (Turn.next.inj went).symm⟩⟩
    · rename_i after executed
      exact ⟨after, fetched, .inr ⟨executed, (Turn.next.inj went).symm⟩⟩
    · cases went

theorem turn_ne_unfinished (machine last : Machine) :
    machine.turn env code ≠ .stop (.unfinished last) := by
  intro stopped
  unfold turn at stopped
  split at stopped
  · cases stopped
  · split at stopped <;> cases stopped

theorem reaches_of_unfinished {budget : Nat} {machine last : Machine}
    (unfinished : ending env code budget machine = .unfinished last) :
    Reaches env code machine last := by
  induction budget generalizing machine with
  | zero =>
    cases unfinished
    exact .refl
  | succ budget ih =>
    unfold ending at unfinished
    cases went : machine.turn env code with
    | next next =>
      rw [went] at unfinished
      exact .head went (ih unfinished)
    | stop result =>
      rw [went] at unfinished
      dsimp only at unfinished
      subst unfinished
      exact absurd went (turn_ne_unfinished machine last)

theorem ending_eq_failed {budget : Nat} {machine : Machine} {error : RuntimeError}
    (failed : ending env code budget machine = .failed error) :
    ∃ (last : Machine) (instruction : Instruction), code[last.pc]? = some instruction ∧
      last.execute env instruction = .error error := by
  induction budget generalizing machine with
  | zero => cases failed
  | succ budget ih =>
    unfold ending at failed
    cases went : machine.turn env code with
    | next next =>
      rw [went] at failed
      exact ih failed
    | stop result =>
      rw [went] at failed
      dsimp only at failed
      subst failed
      obtain ⟨instruction, fetched, executed⟩ := turn_eq_failed went
      exact ⟨machine, instruction, fetched, executed⟩

theorem instruction_of_invalidOperand {budget : Nat} {machine : Machine} {operation : Operation}
    {expected : Role} {found : Option OperandKind} {index : Nat}
    (failed : ending env code budget machine =
      .failed (.invalidOperand operation expected found index)) :
    ∃ instruction, code[index]? = some instruction ∧ instruction.operation = operation := by
  obtain ⟨last, instruction, fetched, executed⟩ := ending_eq_failed failed
  rcases execute_eq_error executed with ⟨_, _, same⟩ | ⟨-, _, -, -, other⟩
  · injection same with operation _ _ place
    exact ⟨instruction, place ▸ fetched, operation.symm⟩
  · cases other

theorem ending_of_reaches {machine last : Machine} (reaches : Reaches env code machine last) :
    ∃ turns, ∀ budget,
      ending env code (budget + turns) machine = ending env code budget last := by
  induction reaches using Relation.ReflTransGen.head_induction_on with
  | refl => exact ⟨0, fun _ => rfl⟩
  | head went _ ih =>
    obtain ⟨turns, same⟩ := ih
    refine ⟨turns + 1, fun budget => ?_⟩
    rw [← Nat.add_assoc, ending, went]
    exact same budget

end Machine

namespace Code

def dispatched (isMatch : String → String → Bool) (budget : Nat) (code : Code)
    (vars : Variables) : List (Nat × Instruction) :=
  (code.tracedRun isMatch budget vars).2.filterMap Event.dispatch?

variable (isMatch : String → String → Bool) (budget : Nat) (code : Code) (vars : Variables)

theorem run_eq_ending : code.run isMatch budget vars =
    Machine.ending ⟨code.size, vars, isMatch⟩ code budget .start :=
  Machine.fst_runFrom _ _ _ _ _

theorem dispatched_eq_dispatches : code.dispatched isMatch budget vars =
    Machine.dispatches ⟨code.size, vars, isMatch⟩ code budget .start :=
  Machine.snd_runFrom budget 0 .start []

end Code

end ScoringRules
