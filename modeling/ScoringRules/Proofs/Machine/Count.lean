import ScoringRules.Proofs.Machine.Forward

/-!
What a run that ends tells about itself: a message for each instruction that it dispatches, and at
last how many it has executed. An exit is dispatched and ends the run, but it is not counted.
-/

namespace ScoringRules

def Event.IsCount (event : Event) : Prop :=
  ∃ count, event = .executed count

theorem Event.isSome_dispatch? (event : Event) :
    event.dispatch?.isSome = decide (event.level = .trace) := by
  cases event <;> rfl

def exitCount (dispatches : List (Nat × Instruction)) : Nat :=
  dispatches.countP fun dispatch => dispatch.2.operation = .exit

theorem exitCount_cons_of_exit {instruction : Instruction} (exit : instruction.operation = .exit)
    (index : Nat) (dispatches : List (Nat × Instruction)) :
    exitCount ((index, instruction) :: dispatches) = exitCount dispatches + 1 :=
  List.countP_cons_of_pos (by simp [exit])

theorem exitCount_cons_of_ne {instruction : Instruction} (other : instruction.operation ≠ .exit)
    (index : Nat) (dispatches : List (Nat × Instruction)) :
    exitCount ((index, instruction) :: dispatches) = exitCount dispatches :=
  List.countP_cons_of_neg (by simp [other])

namespace Machine

variable {env : Environment} {code : Code} {machine next : Machine} {instruction : Instruction}

theorem halted_iff_of_execute {flow : Flow}
    (executed : machine.execute env instruction = .ok (next, flow)) :
    flow = .halted ↔ instruction.operation = .exit := by
  constructor
  · rintro rfl
    cases execute_moves executed with
    | halt exit => exact exit
  · obtain ⟨operation, ret, left, right⟩ := instruction
    rintro rfl
    cases executed
    rfl

theorem ne_exit_of_next (fetched : code[machine.pc]? = some instruction)
    (went : machine.turn env code = .next next) : instruction.operation ≠ .exit := by
  obtain ⟨instruction, after, found, ⟨executed, -⟩ | ⟨executed, -⟩⟩ := turn_eq_next went <;>
    obtain rfl := Option.some.inj (fetched.symm.trans found) <;>
    exact fun exit => nomatch (halted_iff_of_execute executed).mpr exit

theorem runFrom_of_next (fetched : code[machine.pc]? = some instruction)
    (went : machine.turn env code = .next next) (observe : σ → Event → σ) (budget count : Nat)
    (seen : σ) : runFrom observe env code (budget + 1) count machine seen =
      runFrom observe env code budget (count + 1) next
        (observe seen (.dispatched machine.pc instruction)) := by
  unfold turn at went
  rw [runFrom]
  rw [fetched] at went ⊢
  dsimp only at went ⊢
  rcases executed : machine.execute env instruction with _ | ⟨after, _ | _ | _⟩ <;>
    rw [executed] at went <;> cases went <;> rfl

theorem runFrom_of_stop (fetched : code[machine.pc]? = some instruction) {scores : Scores}
    (stopped : machine.turn env code = .stop (.finished scores)) (observe : σ → Event → σ)
    (budget count : Nat) (seen : σ) :
    (runFrom observe env code (budget + 1) count machine seen).2 =
      observe (observe (observe seen (.dispatched machine.pc instruction)) (.exited machine.pc))
        (.executed count) := by
  unfold turn at stopped
  rw [runFrom]
  rw [fetched] at stopped ⊢
  dsimp only at stopped ⊢
  rcases executed : machine.execute env instruction with _ | ⟨after, _ | _ | _⟩ <;>
    rw [executed] at stopped <;> cases stopped
  cases execute_moves executed
  rfl

theorem exitCount_dispatches_le (budget : Nat) (machine : Machine) :
    exitCount (dispatches env code budget machine) ≤ 1 := by
  induction budget generalizing machine with
  | zero => exact Nat.zero_le _
  | succ budget ih =>
    unfold dispatches
    cases fetched : code[machine.pc]? with
    | none => exact Nat.zero_le _
    | some instruction =>
      dsimp only
      cases went : machine.turn env code with
      | next next =>
        rw [exitCount_cons_of_ne (ne_exit_of_next fetched went)]
        exact ih next
      | stop result => exact List.countP_le_length

theorem told_of_finished {budget : Nat} {machine : Machine} {scores : Scores}
    (finished : ending env code budget machine = .finished scores) (count : Nat)
    (seen : List Event) :
    ∃ told total,
      (runFrom (fun history event => event :: history) env code budget count machine seen).2 =
        .executed total :: (told ++ seen) ∧
      (∀ event ∈ told, ¬ event.IsCount) ∧
      total + exitCount (dispatches env code budget machine) =
        count + (dispatches env code budget machine).length := by
  induction budget generalizing count machine seen with
  | zero => cases finished
  | succ budget ih =>
    unfold ending at finished
    unfold dispatches
    cases fetched : code[machine.pc]? with
    | none => exact ⟨[], count, by simp [runFrom, fetched], List.forall_mem_nil _, rfl⟩
    | some instruction =>
      dsimp only
      cases went : machine.turn env code with
      | next next =>
        rw [went] at finished
        dsimp only
        obtain ⟨told, total, log, silent, counted⟩ :=
          ih finished (count + 1) (.dispatched machine.pc instruction :: seen)
        refine ⟨told ++ [.dispatched machine.pc instruction], total, ?_, ?_, ?_⟩
        · rw [runFrom_of_next fetched went, log, List.append_cons]
        · exact List.forall_mem_append.mpr ⟨silent, by simp [Event.IsCount]⟩
        · rw [exitCount_cons_of_ne (ne_exit_of_next fetched went), counted, List.length_cons]
          omega
      | stop result =>
        -- Only an exit stops a run that finishes, and the count is not raised for it.
        rw [went] at finished
        dsimp only at finished
        subst finished
        have log := runFrom_of_stop fetched went (fun history event => event :: history) budget
          count seen
        refine ⟨[.exited machine.pc, .dispatched machine.pc instruction], count, log, ?_, ?_⟩
        · simp [Event.IsCount]
        · rw [exitCount_cons_of_exit (exit_of_finished fetched went)]
          rfl

end Machine

namespace Code

/-- A run that finishes tells at last, and only then, how many instructions it has executed. That
number and the number of exits make up the number of instructions it has dispatched, which is that
of its trace messages; there is at most one exit. -/
theorem executed_of_finished (isMatch : String → String → Bool) (budget : Nat) (code : Code)
    (vars : Variables) {scores : Scores}
    (finished : code.run isMatch budget vars = .finished scores) :
    ∃ told total, (code.tracedRun isMatch budget vars).2 = told ++ [.executed total] ∧
      (∀ event ∈ told, ¬ event.IsCount) ∧
      total + exitCount (code.dispatched isMatch budget vars) =
        told.countP (fun event => event.level = .trace) ∧
      told.countP (fun event => event.level = .trace) =
        (code.dispatched isMatch budget vars).length ∧
      exitCount (code.dispatched isMatch budget vars) ≤ 1 := by
  rw [run_eq_ending] at finished
  obtain ⟨told, total, log, silent, counted⟩ := Machine.told_of_finished finished 0 []
  have history : (code.tracedRun isMatch budget vars).2 = told.reverse ++ [.executed total] := by
    have reversed := congrArg List.reverse log
    rwa [List.reverse_cons, List.append_nil] at reversed
  have traces : told.reverse.countP (fun event => event.level = .trace) =
      (code.dispatched isMatch budget vars).length := by
    unfold dispatched
    rw [history, List.filterMap_append, List.length_append,
      List.length_filterMap_eq_countP, funext Event.isSome_dispatch?]
    rfl
  refine ⟨told.reverse, total, history, by simpa using silent, ?_, traces, ?_⟩
  · rw [traces, dispatched_eq_dispatches, counted, Nat.zero_add]
  · rw [dispatched_eq_dispatches]
    exact Machine.exitCount_dispatches_le budget .start

theorem executed_of_finished_exit :
    let code : Code := #[.change .setScore "x" (.int 1), .plain .noop, .plain .exit, .plain .noop]
    code.run (fun _ _ => false) 4 ∅ = .finished (.ofList [("x", 1)]) ∧
      ∃ told, (code.tracedRun (fun _ _ => false) 4 ∅).2 = told ++ [.executed 2] ∧
        told.countP (fun event => event.level = .trace) = 3 := by
  intro code
  have finished : code.run (fun _ _ => false) 4 ∅ = .finished (.ofList [("x", 1)]) := rfl
  obtain ⟨told, total, log, -, counted, traces, -⟩ :=
    executed_of_finished (fun _ _ => false) 4 code ∅ finished
  have three : told.countP (fun event => event.level = .trace) = 3 := traces
  rw [three] at counted
  obtain rfl : total = 2 := Nat.add_right_cancel (m := 1) counted
  exact ⟨finished, told, log, three⟩

/-- An exit is dispatched, and the count says that nothing has been executed. -/
theorem executed_ne_dispatched_of_exit :
    let code : Code := #[.plain .exit]
    code.tracedRun (fun _ _ => false) 1 ∅ =
      (.finished ∅, [.dispatched 0 (.plain .exit), .exited 0, .executed 0]) ∧
    (code.dispatched (fun _ _ => false) 1 ∅).length = 1 :=
  ⟨rfl, rfl⟩

end Code

end ScoringRules
