import ScoringRules.Proofs.Code.Execution
import ScoringRules.Proofs.Code.Jumps
import ScoringRules.Proofs.Machine.Comparison

/-!
Generated code does what its rules mean: run from the start, it gives the scores that direct
evaluation gives, in the same order, or reports the mismatch at which direct evaluation fails.
-/

namespace ScoringRules

def seek (wanted : Bool) : List (Except Mismatch Bool) → Except Mismatch Bool
  | [] => return false
  | first :: rest => do if (← first) == wanted then return true else seek wanted rest

theorem seek_true_singleton (result : Except Mismatch Bool) : seek true [result] = result := by
  rcases result with _ | _ | _ <;> rfl

theorem not_seek_false_singleton (result : Except Mismatch Bool) :
    (seek false [result]).map not = result := by
  rcases result with _ | _ | _ <;> rfl

theorem isMember_eq_seek (s : Setting) (left : Value) (members : List Value) :
    isMember s left members = seek true (members.map (Comparison.equal.holds s left)) := by
  induction members with
  | nil => rfl
  | cons first rest ih =>
    rw [isMember, List.map_cons, seek, ih]
    simp only [beq_true]

theorem expressionHolds_eq_seek (s : Setting) (clauses : Expression) :
    expressionHolds s clauses = seek true (clauses.map (clauseHolds s)) := by
  induction clauses with
  | nil => simp [expressionHolds, seek]
  | cons first rest ih => simp [expressionHolds, seek, ih]

theorem clauseHolds_eq_seek (s : Setting) (clause : Clause) :
    clauseHolds s clause = (seek false (clause.map (Condition.holds s))).map not := by
  induction clause with
  | nil => simp [clauseHolds, seek, pure, Except.pure, Except.map]
  | cons first rest ih =>
    rw [clauseHolds, List.map_cons, seek, ih]
    rcases first.holds s with _ | _ | _ <;> rfl

namespace Block

section Values

variable (env : Environment)

/-- A block has put a truth value into a register and kept the scores, or failed. -/
def Answered (ret : Register) (scores : Scores) (passage : Passage) : Except Mismatch Bool → Prop
  | .ok value => ∃ next, passage = .through next ∧ next.scores = scores ∧
      next.readRegister ret = value
  | .error mismatch => ∃ index, passage = .failed (mismatch.error index)

/-- A block has changed the scores and has or has not halted, or failed. -/
def Progressed (passage : Passage) : Except Mismatch Progress → Prop
  | .ok ⟨scores, false⟩ => ∃ next, passage = .through next ∧ next.scores = scores
  | .ok ⟨scores, true⟩ => ∃ next, passage = .halted next ∧ next.scores = scores
  | .error mismatch => ∃ index, passage = .failed (mismatch.error index)

/-- Wherever it stands, a block computes a truth value that depends on the scores. -/
def Computes (block : Block) (ret : Register) (scores : Scores) (result : Except Mismatch Bool) :
    Prop :=
  ∀ exit machine, machine.scores = scores →
    Answered ret scores (block.exec env exit machine) result

def Performs (block : Block) (scores : Scores) (result : Except Mismatch Progress) : Prop :=
  ∀ exit machine, machine.scores = scores → Progressed (block.exec env exit machine) result

end Values

variable {env : Environment}

theorem exec_append_of_through {first : Block} {exit : Nat} {machine next : Machine}
    (ran : first.exec env exit machine = .through next) (second : Block) :
    (first ++ second).exec env exit machine = second.exec env exit next := by
  change (append first second).exec env exit machine = _
  rw [exec, ran]

theorem exec_append_of_stopped {first : Block} {exit : Nat} {machine : Machine}
    {passage : Passage} (ran : first.exec env exit machine = passage)
    (stopped : passage.Stopped) (second : Block) :
    (first ++ second).exec env exit machine = passage := by
  change (append first second).exec env exit machine = _
  rw [exec, ran]
  cases passage with
  | through => exact stopped.elim
  | left | halted | failed => rfl

theorem exec_leave (env : Environment) (wanted : Bool) (ret tested : Register) (exit : Nat)
    (machine : Machine) :
    ∃ next, next.scores = machine.scores ∧
      (ret ≠ 0 → next.readRegister ret = (machine.readRegister tested == wanted)) ∧
      (leave wanted ret tested).exec env exit machine =
        if machine.readRegister tested == wanted then .left next else .through next := by
  have written := Machine.readRegister_writeRegister machine ret
    (machine.readRegister tested == wanted)
  unfold exec
  cases taken : machine.readRegister tested == wanted with
  | true =>
    rw [taken] at written
    exact ⟨{ machine.writeRegister ret true with pc := exit },
      Machine.scores_writeRegister machine ret true, written, rfl⟩
  | false =>
    rw [taken] at written
    exact ⟨{ machine.writeRegister ret false with pc := (machine.writeRegister ret false).pc + 1 },
      Machine.scores_writeRegister machine ret false, written, rfl⟩

theorem computes_comparison (cmp : Comparison) (ret : Register) (scores : Scores)
    (positive : ret ≠ 0) (left right : Value) :
    Computes env (comparison cmp ret left right) ret scores
      (cmp.holds ⟨env.vars, scores, env.isMatch⟩ left right) := by
  rintro exit machine rfl
  have executed := Machine.execute_comparison machine env cmp ret left right
  unfold Machine.setting at executed
  unfold comparison exec
  cases holds : cmp.holds ⟨env.vars, machine.scores, env.isMatch⟩ left right with
  | error mismatch =>
    rw [holds] at executed
    exact ⟨machine.pc, by rw [executed]; rfl⟩
  | ok value =>
    rw [holds] at executed
    refine ⟨_, by rw [executed]; rfl, ?_, ?_⟩
    · exact Machine.scores_writeRegister _ _ _
    · exact Machine.readRegister_writeRegister machine ret value positive

theorem Computes.negate {block : Block} {ret : Register} {scores : Scores}
    {result : Except Mismatch Bool} (computes : Computes env block ret scores result)
    (positive : ret ≠ 0) : Computes env (block ++ negation ret) ret scores (result.map not) := by
  intro exit machine same
  have done := computes exit machine same
  cases result with
  | error mismatch =>
    obtain ⟨index, ran⟩ := done
    exact ⟨index, exec_append_of_stopped ran trivial _⟩
  | ok value =>
    obtain ⟨next, ran, kept, holds⟩ := done
    refine ⟨_, (exec_append_of_through ran _).trans rfl, ?_, ?_⟩
    · exact (Machine.scores_writeRegister _ _ _).trans kept
    · rw [← holds]
      exact Machine.readRegister_writeRegister next ret _ positive

theorem Computes.append_empty {block : Block} {ret : Register} {scores : Scores}
    {result : Except Mismatch Bool} (computes : Computes env block ret scores result) :
    Computes env (block ++ empty) ret scores result := by
  intro exit machine same
  have done := computes exit machine same
  cases result with
  | error mismatch =>
    obtain ⟨index, ran⟩ := done
    exact ⟨index, exec_append_of_stopped ran trivial _⟩
  | ok value =>
    obtain ⟨next, ran, told⟩ := done
    exact ⟨next, exec_append_of_through ran _, told⟩

section Search

variable {items : List α} (part : α → Part) {value : α → Except Mismatch Bool}

/-- A chain has been left behind a wanted member, or passed through if there is none. -/
def Found (ret : Register) (scores : Scores) (passage : Passage) : Except Mismatch Bool → Prop
  | .ok true => ∃ next, passage = .left next ∧ next.scores = scores ∧ next.readRegister ret = true
  | .ok false => ∃ next, passage = .through next ∧ next.scores = scores ∧
      next.readRegister ret = false
  | .error mismatch => ∃ index, passage = .failed (mismatch.error index)

theorem found_chain (wanted : Bool) {inUse ret : Register} {scores : Scores} {machine : Machine}
    (positive : ret ≠ 0)
    (computes : ∀ item ∈ items,
      Computes env (part item (inUse + 1) (inUse + 1)) (inUse + 1) scores (value item))
    (same : machine.scores = scores)
    (ready : items ≠ [] ∨ machine.readRegister ret = false) (exit : Nat) :
    Found ret scores
      ((chain wanted ret (inUse + 1) (members inUse (items.map part))).exec env exit machine)
      (seek wanted (items.map value)) := by
  induction items generalizing machine with
  | nil => exact ⟨machine, rfl, same, ready.resolve_left (absurd rfl)⟩
  | cons first rest ih =>
    obtain ⟨computesFirst, computesRest⟩ := List.forall_mem_cons.mp computes
    have ran := computesFirst exit machine same
    rw [List.map_cons, List.map_cons, members, List.map_cons, chain, ← members, seek]
    cases result : value first with
    | error mismatch =>
      rw [result] at ran
      obtain ⟨index, ran⟩ := ran
      have early := exec_append_of_stopped ran trivial (leave wanted ret (inUse + 1))
      exact ⟨index, exec_append_of_stopped early trivial _⟩
    | ok answer =>
      rw [result] at ran
      obtain ⟨next, ran, kept, holds⟩ := ran
      obtain ⟨last, keptToo, told, jumped⟩ :=
        exec_leave env wanted ret (inUse + 1) exit next
      have told := told positive
      rw [holds] at told jumped
      have stepped := (exec_append_of_through ran (leave wanted ret (inUse + 1))).trans jumped
      change Found ret scores _ (if answer == wanted then _ else _)
      -- The answer that is wanted leaves the chain; any other leaves the search to the rest.
      cases taken : answer == wanted with
      | true =>
        rw [taken] at told stepped
        exact ⟨last, exec_append_of_stopped stepped trivial _, keptToo.trans kept, told⟩
      | false =>
        rw [taken] at told stepped
        have rest := ih computesRest (keptToo.trans kept) (.inr told)
        rw [exec_append_of_through stepped]
        exact rest

theorem computes_search (wanted : Bool) {inUse ret : Register} {scores : Scores}
    (positive : ret ≠ 0) (nonempty : items ≠ [])
    (computes : ∀ item ∈ items,
      Computes env (part item (inUse + 1) (inUse + 1)) (inUse + 1) scores (value item)) :
    Computes env (search wanted inUse ret (items.map part)) ret scores
      (seek wanted (items.map value)) := by
  intro exit machine same
  have found := found_chain part wanted positive computes same (.inl nonempty)
    (machine.pc + (chain wanted ret (inUse + 1) (members inUse (items.map part))).size)
  unfold search exec
  cases result : seek wanted (items.map value) with
  | error mismatch =>
    rw [result] at found
    obtain ⟨index, ran⟩ := found
    exact ⟨index, by rw [ran]⟩
  | ok answer =>
    rw [result] at found
    cases answer with
    | true =>
      obtain ⟨next, ran, kept, told⟩ := found
      exact ⟨next, by rw [ran], kept, told⟩
    | false =>
      obtain ⟨next, ran, kept, told⟩ := found
      exact ⟨next, by rw [ran], kept, told⟩

theorem computes_any {inUse ret : Register} {scores : Scores} (positive : ret ≠ 0)
    (nonempty : items ≠ [])
    (computes : ∀ item ∈ items, ∀ inUse ret, ret ≠ 0 →
      Computes env (part item inUse ret) ret scores (value item)) :
    Computes env (any (items.map part) inUse ret) ret scores (seek true (items.map value)) := by
  match items with
  | [] => exact absurd rfl nonempty
  | [item] =>
    rw [List.map_singleton, List.map_singleton, seek_true_singleton]
    exact computes item (List.mem_singleton_self item) inUse ret positive
  | first :: second :: rest =>
    exact computes_search part true positive nonempty fun item member =>
      computes item member _ _ (Nat.succ_ne_zero inUse)

theorem computes_all {inUse ret : Register} {scores : Scores} (positive : ret ≠ 0)
    (nonempty : items ≠ [])
    (computes : ∀ item ∈ items, ∀ inUse ret, ret ≠ 0 →
      Computes env (part item inUse ret) ret scores (value item)) :
    Computes env (all (items.map part) inUse ret) ret scores
      ((seek false (items.map value)).map not) := by
  match items with
  | [] => exact absurd rfl nonempty
  | [item] =>
    rw [List.map_singleton, List.map_singleton, not_seek_false_singleton]
    exact computes item (List.mem_singleton_self item) inUse ret positive
  | first :: second :: rest =>
    have found := computes_search part false positive nonempty fun item member =>
      computes item member _ _ (Nat.succ_ne_zero inUse)
    exact found.negate positive

end Search

section Rules

variable {accepts : String → Bool} {scores : Scores}

theorem computes_list (left : Value) (negated : Bool) {values : List Value} (nonempty : values ≠ [])
    (inUse : Nat) {ret : Register} (positive : ret ≠ 0) :
    Computes env (ofCondition (.list left negated values) inUse ret) ret scores
      ((Condition.list left negated values).holds ⟨env.vars, scores, env.isMatch⟩) := by
  have computes : ∀ value ∈ values, Computes env (comparison .equal (inUse + 1) left value)
      (inUse + 1) scores
      (Comparison.equal.holds ⟨env.vars, scores, env.isMatch⟩ left value) := fun value _ =>
    computes_comparison .equal (inUse + 1) scores (Nat.succ_ne_zero inUse) left value
  have found := computes_search (fun value _ ret => comparison .equal ret left value) true positive
    nonempty computes
  rw [ofCondition, Condition.holds, isMember_eq_seek]
  cases negated with
  | true =>
    have told := found.negate positive
    revert told
    rcases seek true (values.map (Comparison.equal.holds _ left)) with _ | _ | _ <;> exact id
  | false =>
    have told := found.append_empty
    revert told
    rcases seek true (values.map (Comparison.equal.holds _ left)) with _ | _ | _ <;> exact id

theorem computes_condition (env : Environment) (scores : Scores) (condition : Condition)
    (sound : condition.defect? accepts = none) (inUse : Nat) (ret : Register) (positive : ret ≠ 0) :
    Computes env (ofCondition condition inUse ret) ret scores
      (condition.holds ⟨env.vars, scores, env.isMatch⟩) := by
  induction condition using Condition.induction generalizing inUse ret with
  | scalar left cmp right =>
    rw [ofCondition, Condition.holds]
    exact computes_comparison cmp ret scores positive left right
  | list left negated values =>
    rw [Condition.defect?] at sound
    split at sound
    · cases sound
    · rename_i filled
      exact computes_list left negated (fun nothing => filled (by rw [nothing]; rfl)) inUse positive
  | nested clauses ih =>
    rw [Condition.defect?_nested] at sound
    obtain ⟨nonempty, soundClauses⟩ := members_of_sound sound
    rw [ofCondition_nested, Condition.holds, expressionHolds_eq_seek]
    refine computes_any ofClause positive nonempty fun clause inside inUse ret positive => ?_
    obtain ⟨filled, soundConditions⟩ := members_of_sound (soundClauses clause inside)
    rw [clauseHolds_eq_seek]
    refine computes_all ofCondition positive filled fun condition member inUse ret positive => ?_
    exact ih clause inside condition member (soundConditions condition member) inUse ret positive

theorem computes_ofExpression (env : Environment) (scores : Scores) (expression : Expression)
    (sound : expressionDefect? accepts expression = none) (inUse : Nat) (ret : Register)
    (positive : ret ≠ 0) :
    Computes env (ofExpression expression inUse ret) ret scores
      (expressionHolds ⟨env.vars, scores, env.isMatch⟩ expression) := by
  rw [← Condition.defect?_nested] at sound
  have computes := computes_condition env scores (.nested expression) sound
    inUse ret positive
  rwa [ofCondition_nested, Condition.holds] at computes

theorem execute_change (machine : Machine) (score : String) (op : ScoreOp) (amount : Amount) :
    machine.execute env (.change op.operation score amount.operand) =
      .ok (machine.writeScore score
        (op.apply (machine.scores.getD score 0) (amount.value machine.scores)), .proceed) := by
  cases op <;> cases amount <;> rfl

theorem Progressed.scope {body : Block} {machine : Machine} {result : Except Mismatch Progress}
    (progressed : ∀ exit, Progressed (body.exec env exit machine) result) (exit : Nat) :
    Progressed ((Block.scope body).exec env exit machine) result := by
  have ran := progressed (machine.pc + body.size)
  unfold exec
  rcases result with mismatch | ⟨scores, _ | _⟩
  · obtain ⟨index, ran⟩ := ran
    exact ⟨index, by rw [ran]⟩
  all_goals
    obtain ⟨next, ran, reached⟩ := ran
    exact ⟨next, by rw [ran], reached⟩

theorem performs_ofStatements (env : Environment) (statements : List Statement) (inUse : Nat)
    (performs : ∀ statement ∈ statements, ∀ scores, Performs env (ofStatement inUse statement)
      scores (statement.evaluate env.vars env.isMatch scores)) (scores : Scores) :
    Performs env (ofStatements inUse statements) scores
      (evaluateAll env.vars env.isMatch scores statements) := by
  induction statements generalizing scores with
  | nil =>
    rw [ofStatements, evaluateAll]
    exact fun exit machine same => ⟨machine, rfl, same⟩
  | cons first rest ih =>
    obtain ⟨performsFirst, performsRest⟩ := List.forall_mem_cons.mp performs
    intro exit machine same
    have ran := performsFirst scores exit machine same
    rw [ofStatements, evaluateAll]
    cases result : first.evaluate env.vars env.isMatch scores with
    | error mismatch =>
      rw [result] at ran
      obtain ⟨index, ran⟩ := ran
      exact ⟨index, exec_append_of_stopped ran trivial _⟩
    | ok progress =>
      rw [result] at ran
      obtain ⟨after, exited⟩ := progress
      cases exited with
      | true =>
        obtain ⟨next, ran, reached⟩ := ran
        exact ⟨next, exec_append_of_stopped ran trivial _, reached⟩
      | false =>
        obtain ⟨next, ran, reached⟩ := ran
        change Progressed ((ofStatement inUse first ++ _).exec env exit machine)
          (evaluateAll env.vars env.isMatch after rest)
        rw [exec_append_of_through ran]
        exact ih performsRest after exit next reached

theorem performs_ofStatement (env : Environment) (statement : Statement)
    (sound : statement.defect? accepts = none) (inUse : Nat) (scores : Scores) :
    Performs env (ofStatement inUse statement) scores
      (statement.evaluate env.vars env.isMatch scores) := by
  induction statement using Statement.induction generalizing inUse scores with
  | rule condition consequences ih =>
    rw [Statement.defect?, Option.or_eq_none_iff] at sound
    have performs := performs_ofStatements env consequences (inUse + 1)
      fun statement member => ih statement member (sound_of_statements sound.2 statement member) _
    intro exit machine same
    have ran := computes_ofExpression env scores condition sound.1 (inUse + 1) (inUse + 1)
      (Nat.succ_ne_zero inUse) exit machine same
    rw [ofStatement, Statement.evaluate]
    cases result : expressionHolds ⟨env.vars, scores, env.isMatch⟩ condition with
    | error mismatch =>
      rw [result] at ran
      obtain ⟨index, ran⟩ := ran
      exact ⟨index, exec_append_of_stopped ran trivial _⟩
    | ok holds =>
      rw [result] at ran
      obtain ⟨next, ran, kept, told⟩ := ran
      rw [exec_append_of_through ran]
      cases holds with
      | true =>
        refine Progressed.scope (fun exit => ?_) exit
        obtain ⟨last, keptToo, -, passed⟩ := exec_leave env false 0 (inUse + 1) exit next
        rw [told] at passed
        rw [exec_append_of_through passed]
        exact performs scores exit last (keptToo.trans kept)
      | false =>
        obtain ⟨last, keptToo, -, jumped⟩ := exec_leave env false 0 (inUse + 1)
          (next.pc + (leave false 0 (inUse + 1) ++ ofStatements (inUse + 1) consequences).size) next
        rw [told] at jumped
        refine ⟨last, ?_, keptToo.trans kept⟩
        unfold exec
        rw [exec_append_of_stopped jumped trivial]
        rfl
  | change score op amount =>
    rintro exit machine rfl
    rw [ofStatement, Statement.evaluate]
    unfold exec
    rw [execute_change]
    exact ⟨_, rfl, rfl⟩
  | exit =>
    rw [ofStatement, Statement.evaluate]
    exact fun exit machine same => ⟨machine, rfl, same⟩

end Rules

end Block

namespace Code

/-- A run ends as direct evaluation does: with the scores, or with an error at an instruction for
the comparison that meets a mismatch. -/
def Agrees (code : Code) (ending : Ending) : Except Mismatch Scores → Prop
  | .ok scores => ending = .finished scores
  | .error mismatch => ∃ index instruction, code[index]? = some instruction ∧
      instruction.operation = mismatch.comparison.operation ∧
      ending = .failed (mismatch.error index)

variable {accepts : String → Bool} {rules : List Statement} {code : Code}

/-- A run of generated code is an execution of the block of the whole program. -/
theorem run_eq_exec (generated : (generate accepts rules).1 = .ok code)
    (isMatch : String → String → Bool) (vars : Variables) {budget : Nat}
    (enough : code.size < budget) :
    code.run isMatch budget vars =
      ((Block.ofProgram rules).exec ⟨code.size, vars, isMatch⟩ code.size .start).ending := by
  have shape := (eq_layout_of_generate generated).2
  rw [Block.layout_of_closed (Block.closed_ofProgram rules) 0 none (some code.size)] at shape
  have listed := congrArg Array.toList shape
  have size : code.size = (Block.ofProgram rules).size := by
    rw [← Array.length_toList, listed, Block.length_layout]
  have placed : code.toList = [] ++
      ((Block.ofProgram rules).layout ([] : List Instruction).length (some code.size) ++ []) := by
    rw [List.append_nil]
    exact listed
  have realized : ((Block.ofProgram rules).exec ⟨code.size, vars, isMatch⟩ code.size
      .start).Realized ⟨code.size, vars, isMatch⟩ code .start (0 + (Block.ofProgram rules).size)
        code.size :=
    Block.realized_exec placed rfl (Nat.le_refl _) rfl
  rw [Nat.zero_add, ← size] at realized
  rw [run_eq_ending]
  exact realized.ending_eq (forward_of_generate generated) (Nat.zero_le _)
    (Nat.lt_of_le_of_lt (Nat.sub_le _ _) enough)

/-- A run of generated code gives what direct evaluation of its rules gives. -/
theorem run_generate_agrees (generated : (generate accepts rules).1 = .ok code)
    (isMatch : String → String → Bool) (vars : Variables) {budget : Nat}
    (enough : code.size < budget) :
    code.Agrees (code.run isMatch budget vars) (evaluate vars isMatch rules) := by
  have sound := (eq_layout_of_generate generated).1
  have performs := Block.performs_ofStatements ⟨code.size, vars, isMatch⟩ rules 0
    (fun statement member => Block.performs_ofStatement _ statement
      (Block.sound_of_statements sound statement member) 0) ∅ code.size .start rfl
  have ran := run_eq_exec generated isMatch vars enough
  unfold Block.ofProgram at ran
  unfold evaluate
  dsimp only at performs
  cases result : evaluateAll vars isMatch ∅ rules with
  | error mismatch =>
    rw [result] at performs
    obtain ⟨index, passed⟩ := performs
    rw [Block.exec_append_of_stopped passed trivial] at ran
    have failed := ran
    rw [run_eq_ending] at failed
    obtain ⟨instruction, fetched, operation⟩ := Machine.instruction_of_invalidOperand failed
    exact ⟨index, instruction, fetched, operation, ran⟩
  | ok progress =>
    rw [result] at performs
    obtain ⟨scores, exited⟩ := progress
    cases exited with
    | true =>
      obtain ⟨next, passed, rfl⟩ := performs
      rwa [Block.exec_append_of_stopped passed trivial] at ran
    | false =>
      obtain ⟨next, passed, rfl⟩ := performs
      rwa [Block.exec_append_of_through passed] at ran

theorem run_generate_agrees_exitInRule :
    ∃ code : Code,
      (generate (fun _ => true)
        [.rule [[.list (.var "t") true [.string "x"],
            .nested [[.scalar (.score "a") .less (.int 1)],
              [.scalar (.score "a") .contains (.string "z")]]]]
          [.change "a" .add (.int 1), .exit],
        .change "a" .set (.int 7)]).1 = .ok code ∧
      code.run (fun _ _ => false) 20 (.ofList [("t", "y")]) = .finished (.ofList [("a", 1)]) := by
  have generated := congrArg Prod.fst (generate_of_sound (rfl : statementsDefect? (fun _ => true)
    [.rule [[.list (.var "t") true [.string "x"],
        .nested [[.scalar (.score "a") .less (.int 1)],
          [.scalar (.score "a") .contains (.string "z")]]]]
      [.change "a" .add (.int 1), .exit],
    .change "a" .set (.int 7)] = none))
  exact ⟨_, generated,
    run_generate_agrees generated (fun _ _ => false) (.ofList [("t", "y")]) (by decide)⟩

end Code

end ScoringRules
