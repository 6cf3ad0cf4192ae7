import ScoringRules.Proofs.Data.General
import ScoringRules.Proofs.Data.OrderedMap
import ScoringRules.Proofs.Machine.Effect

/-!
Bookkeeping of scores. The scores of a run are what the instructions it has executed make of
nothing: the names in the order of their first changes, and under each name the result of its
changes, wrapped to 64 bits. Reading a score leaves no trace.
-/

namespace ScoringRules

/-- The number with a sign that 64 bits hold in place of another. -/
def wrapped (number : Int) : Int :=
  number.bmod Int64.size

abbrev Balances := String → Int

def ScoreOp.result : ScoreOp → (old amount : Int) → Int
  | set, _, amount => amount
  | add, old, amount => wrapped (old + amount)
  | sub, old, amount => wrapped (old - amount)

theorem ScoreOp.toInt_apply (op : ScoreOp) (old amount : Int64) :
    (op.apply old amount).toInt = op.result old.toInt amount.toInt := by
  cases op with
  | set => rfl
  | add => exact Int64.toInt_add old amount
  | sub => exact Int64.toInt_sub old amount

def Operand.amount (balances : Balances) : Operand → Int
  | int value => value.toInt
  | score name => balances name
  | _ => 0

namespace Instruction

def changed? (instruction : Instruction) : Option String :=
  match instruction.operation.scoreOp?, instruction.left with
  | some _, some (.score name) => some name
  | _, _ => none

/-- The balances when the instruction has been executed. -/
def book (balances : Balances) (instruction : Instruction) : Balances :=
  match instruction.operation.scoreOp?, instruction.left, instruction.right with
  | some op, some (.score name), some operand =>
    Function.update balances name (op.result (balances name) (operand.amount balances))
  | _, _, _ => balances

variable {instruction : Instruction}

theorem changed?_of_still (still : instruction.operation.scoreOp? = none) :
    instruction.changed? = none := by
  simp [changed?, still]

theorem book_of_still (still : instruction.operation.scoreOp? = none) (balances : Balances) :
    instruction.book balances = balances := by
  simp [book, still]

theorem book_change (op : ScoreOp) (ret : Register) (name : String) (operand : Operand)
    (balances : Balances) :
    book balances ⟨op.operation, ret, some (.score name), some operand⟩ =
      Function.update balances name (op.result (balances name) (operand.amount balances)) := by
  simp [book]

end Instruction

def booked (history : List Instruction) : Balances :=
  history.foldl Instruction.book fun _ => 0

theorem booked_concat (history : List Instruction) (instruction : Instruction) :
    booked (history ++ [instruction]) = instruction.book (booked history) :=
  List.foldl_concat _ _ _ _

/-- The scores are what these instructions make of nothing. -/
structure Scores.Books (scores : Scores) (history : List Instruction) : Prop where
  names : scores.keys = (history.filterMap Instruction.changed?).eraseDups
  values : ∀ name, (scores.getD name 0).toInt = booked history name

def Ending.scores? : Ending → Option Scores
  | finished scores => some scores
  | unfinished machine => some machine.scores
  | failed _ => none

namespace Machine

variable {env : Environment} {machine next : Machine} {instruction : Instruction} {flow : Flow}

theorem toInt_of_intOperand {operation : Operation} {operand : Option Operand} {value : Int64}
    (read : machine.intOperand operation operand = .ok value) {balances : Balances}
    (values : ∀ name, (machine.scores.getD name 0).toInt = balances name) :
    ∃ given, operand = some given ∧ value.toInt = given.amount balances := by
  unfold intOperand at read
  split at read
  · cases read
    exact ⟨_, rfl, rfl⟩
  · cases read
    exact ⟨_, rfl, values _⟩
  · cases read

theorem scores_eq_of_still (still : instruction.operation.scoreOp? = none)
    (effect : Effect env instruction machine next flow) : next.scores = machine.scores := by
  rcases instruction.operation.kinds with idle | ⟨op, changes⟩ | answers
  · exact (effect.idle idle).2
  · simp [changes] at still
  · exact (effect.answer answers).1

end Machine

namespace Scores.Books

open Machine

variable {env : Environment} {machine next : Machine} {instruction : Instruction}
  {history : List Instruction} {flow : Flow}

theorem execute (books : machine.scores.Books history)
    (done : machine.execute env instruction = .ok (next, flow)) :
    next.scores.Books (history ++ [instruction]) := by
  cases changes : instruction.operation.scoreOp? with
  | none =>
    rw [scores_eq_of_still changes (effect_of_execute done)]
    refine ⟨?_, fun name => ?_⟩
    · simpa [Instruction.changed?_of_still changes] using books.names
    · rw [booked_concat, Instruction.book_of_still changes]
      exact books.values name
  | some op =>
    obtain ⟨operation, ret, left, right⟩ := instruction
    obtain rfl : operation = op.operation := Operation.eq_operation_of_scoreOp? changes
    obtain ⟨name, value, rfl, amounts, rfl, -⟩ := execute_scoreChange_eq_ok done
    obtain ⟨operand, rfl, amount⟩ := toInt_of_intOperand amounts books.values
    refine ⟨?_, fun other => ?_⟩
    · have keys : (machine.writeScore name (op.apply (machine.readScore name) value)).scores.keys =
          if name ∈ machine.scores.keys then machine.scores.keys
          else machine.scores.keys ++ [name] := OrderedMap.keys_insert machine.scores name _
      rw [books.names, ← eraseDups_concat] at keys
      simpa [Instruction.changed?, changes] using keys
    · rw [booked_concat, Instruction.book_change, ← amount, ← books.values name,
        ← ScoreOp.toInt_apply, Function.update_apply]
      unfold writeScore OrderedMap.getD
      rw [OrderedMap.get?_insert]
      split
      · rfl
      · exact books.values other

end Scores.Books

def Turn.scores? : Turn → Option Scores
  | next machine => some machine.scores
  | stop ending => ending.scores?

namespace Machine

variable {env : Environment} {code : Code} {machine : Machine} {instruction : Instruction}
  {scores : Scores}

theorem exists_execute_of_turn (fetched : code[machine.pc]? = some instruction)
    (held : (machine.turn env code).scores? = some scores) :
    ∃ next flow, machine.execute env instruction = .ok (next, flow) ∧ next.scores = scores := by
  unfold turn at held
  rw [fetched] at held
  dsimp only at held
  rcases executed : machine.execute env instruction with error | ⟨next, flow⟩
  · rw [executed] at held
    cases held
  · rw [executed] at held
    refine ⟨next, flow, rfl, ?_⟩
    cases flow <;> exact Option.some.inj held

theorem books_of_ending {history : List Instruction} (books : machine.scores.Books history)
    {budget : Nat} (held : (ending env code budget machine).scores? = some scores) :
    scores.Books (history ++ (dispatches env code budget machine).map Prod.snd) := by
  induction budget generalizing machine history with
  | zero =>
    cases held
    simpa [dispatches] using books
  | succ budget ih =>
    unfold ending at held
    unfold dispatches
    cases fetched : code[machine.pc]? with
    | none =>
      rw [turn, fetched] at held
      cases held
      simpa using books
    | some instruction =>
      dsimp only
      rw [List.map_cons, List.append_cons]
      cases went : machine.turn env code with
      | next next =>
        rw [went] at held
        obtain ⟨after, flow, executed, same⟩ := exists_execute_of_turn fetched
          (congrArg Turn.scores? went)
        exact ih (same ▸ books.execute executed) held
      | stop result =>
        rw [went] at held
        obtain ⟨after, flow, executed, same⟩ := exists_execute_of_turn fetched
          ((congrArg Turn.scores? went).trans held)
        simpa using same ▸ books.execute executed

theorem dispatches_isPrefix (budget more : Nat) (machine : Machine) :
    dispatches env code budget machine <+: dispatches env code (budget + more) machine := by
  induction budget generalizing machine with
  | zero => exact List.nil_prefix
  | succ budget ih =>
    rw [Nat.succ_add]
    unfold dispatches
    cases code[machine.pc]? with
    | none => exact List.prefix_rfl
    | some instruction =>
      dsimp only
      rw [List.prefix_cons_inj]
      cases machine.turn env code with
      | next next => exact ih next
      | stop result => exact List.prefix_rfl

end Machine

namespace Code

def history (isMatch : String → String → Bool) (budget : Nat) (code : Code) (vars : Variables) :
    List Instruction :=
  (code.dispatched isMatch budget vars).map Prod.snd

/-- As far as a run has come, its scores are named by the changes it has executed, in the order in
which each name came first, and hold what these changes make of 0. A score that is only read is not
there, and one that is there keeps its place from then on. -/
theorem run_books_scores (isMatch : String → String → Bool) (budget : Nat) (code : Code)
    (vars : Variables) {scores : Scores}
    (held : (code.run isMatch budget vars).scores? = some scores) :
    scores.keys = ((code.history isMatch budget vars).filterMap Instruction.changed?).eraseDups ∧
    (∀ name, (scores.getD name 0).toInt = booked (code.history isMatch budget vars) name) ∧
    (∀ name, name ∈ scores.keys ↔
      ∃ instruction ∈ code.history isMatch budget vars, instruction.changed? = some name) ∧
    ∀ more later, (code.run isMatch (budget + more) vars).scores? = some later →
      scores.keys <+: later.keys := by
  have books {budget : Nat} {scores : Scores}
      (held : (code.run isMatch budget vars).scores? = some scores) :
      scores.Books (code.history isMatch budget vars) := by
    rw [run_eq_ending] at held
    have start : Machine.start.scores.Books [] := ⟨rfl, fun _ => rfl⟩
    have kept := Machine.books_of_ending start held
    rwa [← dispatched_eq_dispatches] at kept
  refine ⟨(books held).names, (books held).values, fun name => ?_, fun more later heldLater => ?_⟩
  · rw [(books held).names, List.mem_eraseDups, List.mem_filterMap]
  · rw [(books held).names, (books heldLater).names]
    refine eraseDups_isPrefix (List.IsPrefix.filterMap _ (List.IsPrefix.map _ ?_))
    rw [dispatched_eq_dispatches, dispatched_eq_dispatches]
    exact Machine.dispatches_isPrefix budget more .start

theorem run_books_scores_loop :
    let code : Code := #[.change .setScore "y" (.int (-9223372036854775808)),
      .change .subScore "x" (.score "x"), .change .subScore "y" (.int 1),
      .compare .isGreater 1 (.score "z") (.int 0), .jump .jumpIfFalse 0 1 1]
    ∃ scores, (code.run (fun _ _ => false) 7 ∅).scores? = some scores ∧
      scores.keys = ["y", "x"] ∧ (scores.getD "y" 0).toInt = 9223372036854775806 ∧
      "z" ∉ scores.keys ∧ ∀ more later,
        (code.run (fun _ _ => false) (7 + more) ∅).scores? = some later →
          scores.keys <+: later.keys := by
  intro code
  have held : (code.run (fun _ _ => false) 7 ∅).scores? = some _ := rfl
  obtain ⟨names, values, reads, onward⟩ := run_books_scores (fun _ _ => false) 7 code ∅ held
  refine ⟨_, held, names.trans ?_, (values "y").trans ?_, ?_, onward⟩
  · rfl
  · rfl
  · rw [reads]
    decide

end Code

end ScoringRules
