import ScoringRules.Proofs.Code.Induction
import ScoringRules.Proofs.Code.Jumps
import ScoringRules.Proofs.Machine.Assignment

/-!
Generated code reads no register that it has not written before. A condition leaves its truth value
in its register on every way through its code, and that is where it is read.
-/

namespace ScoringRules

namespace Block

mutual

/-- What has been written when a block has been passed through, if these registers have been
written before. -/
def through : Block → Set Register → Set Register
  | empty, known => known
  | single instruction _, known => known ∪ instruction.written
  | append first second, known => second.through (first.through known)
  | scope body, known => body.through known ∩ body.out known
  | leave wanted ret tested, known => known ∪ (leaving wanted ret tested 0).written

/-- What has been written when a jump has left the block, whichever it was; all registers if there
is no such jump. -/
def out : Block → Set Register → Set Register
  | empty, _ | single _ _, _ | scope _, _ => Set.univ
  | append first second, known => first.out known ∩ second.out (first.through known)
  | leave wanted ret tested, known => known ∪ (leaving wanted ret tested 0).written

end

def Assigned : Block → Set Register → Prop
  | empty, _ => True
  | single instruction _, known => ∀ register, instruction.Reads register → register ∈ known
  | append first second, known => first.Assigned known ∧ second.Assigned (first.through known)
  | scope body, known => body.Assigned known
  | leave _ _ tested, known => tested ∈ known

theorem out_of_closed {block : Block} (closed : block.Closed) (known : Set Register) :
    block.out known = Set.univ := by
  induction block generalizing known with
  | empty | single | scope => rfl
  | append first second ihFirst ihSecond =>
    rw [out, ihFirst closed.1, ihSecond closed.2, Set.inter_self]
  | leave => exact closed.elim

theorem fetched_of_placed {code : Code} {before after : List Instruction}
    {instruction : Instruction} (placed : code.toList = before ++ instruction :: after) :
    code[before.length]? = some instruction := by
  rw [← Array.getElem?_toList, placed, List.getElem?_append_right (Nat.le_refl _), Nat.sub_self,
    List.getElem?_cons_zero]

theorem Assigned.of_placed {code : Code} {block : Block} {before after : List Instruction}
    {exit : Nat} {known : Set Register} (assigned : block.Assigned known)
    (placed : code.toList = before ++ (block.layout before.length (some exit) ++ after))
    (behind : code.Assigned (before.length + block.size) (block.through known))
    (left : code.Assigned exit (block.out known)) : code.Assigned before.length known := by
  induction block generalizing before after exit known with
  | empty => exact behind
  | single instruction straight =>
    refine .here (fetched_of_placed placed) assigned behind fun target jumps => ?_
    rw [straight] at jumps
    cases jumps
  | append first second ihFirst ihSecond =>
    rw [layout, List.append_assoc] at placed
    have length : (before ++ first.layout before.length (some exit)).length =
        before.length + first.size := by
      rw [List.length_append, length_layout]
    -- The second block stands behind the first one, so the code there is known by induction.
    have placedSecond : code.toList = (before ++ first.layout before.length (some exit)) ++
        (second.layout (before ++ first.layout before.length (some exit)).length (some exit) ++
          after) := by
      rw [placed, length, List.append_assoc]
    have middle := ihSecond assigned.2 placedSecond (by rwa [length, Nat.add_assoc])
      (left.mono Set.inter_subset_right)
    rw [length] at middle
    exact ihFirst assigned.1 placed middle (left.mono Set.inter_subset_left)
  | scope body ih =>
    exact ih assigned placed (behind.mono Set.inter_subset_left)
      (behind.mono Set.inter_subset_right)
  | leave wanted ret tested =>
    refine .here (fetched_of_placed placed) ?_ behind fun target jumps leads => ?_
    · rintro register ⟨-, same⟩
      obtain rfl : tested = register := by simpa [leaving, Instruction.jump] using same
      exact assigned
    · obtain rfl : exit = target := by simpa [leaving, Instruction.jump] using leads
      exact left

/-- Whatever has been written before, the block reads only what has been written, and has written
this register when it has been passed through. -/
structure Answers (ret : Register) (block : Block) : Prop where
  closed : block.Closed
  assigned : ∀ known, block.Assigned known
  answered : ∀ known, ret ∈ block.through known

variable {ret : Register}

theorem answers_comparison (positive : ret ≠ 0) (cmp : Comparison) (left right : Value) :
    (comparison cmp ret left right).Answers ret where
  closed := trivial
  assigned known register reading :=
    absurd reading (Instruction.not_reads (by cases cmp <;> rfl) register)
  answered known := .inr ⟨positive, rfl, by cases cmp <;> rfl⟩

theorem Answers.negate {block : Block} (answers : block.Answers ret) (positive : ret ≠ 0) :
    (block ++ negation ret).Answers ret where
  closed := ⟨answers.closed, trivial⟩
  assigned known := by
    refine ⟨answers.assigned known, ?_⟩
    rintro register ⟨-, same⟩
    obtain rfl : ret = register := by simpa [Instruction.negate] using same
    exact answers.answered known
  answered known := .inr ⟨positive, rfl, rfl⟩

theorem Answers.append_empty {block : Block} (answers : block.Answers ret) :
    (block ++ empty).Answers ret where
  closed := ⟨answers.closed, trivial⟩
  assigned known := ⟨answers.assigned known, trivial⟩
  answered := answers.answered

theorem assigned_chain (wanted : Bool) (positive : ret ≠ 0) {tested : Register}
    {blocks : List Block} (each : ∀ block ∈ blocks, block.Answers tested) (known : Set Register) :
    (chain wanted ret tested blocks).Assigned known ∧
      ret ∈ (chain wanted ret tested blocks).out known ∧
      (blocks ≠ [] ∨ ret ∈ known → ret ∈ (chain wanted ret tested blocks).through known) := by
  induction blocks generalizing known with
  | nil => exact ⟨trivial, trivial, fun ready => ready.resolve_left (absurd rfl)⟩
  | cons first rest ih =>
    obtain ⟨answers, eachRest⟩ := List.forall_mem_cons.mp each
    have wrote (known : Set Register) :
        ret ∈ known ∪ (leaving wanted ret tested 0).written :=
      .inr ⟨positive, rfl, by cases wanted <;> rfl⟩
    obtain ⟨assigned, out, through⟩ := ih eachRest
      (first.through known ∪ (leaving wanted ret tested 0).written)
    refine ⟨⟨⟨answers.assigned known, answers.answered known⟩, assigned⟩, ⟨⟨?_, wrote _⟩, out⟩,
      fun _ => through (.inr (wrote _))⟩
    rw [out_of_closed answers.closed]
    trivial

theorem answers_scope (wanted : Bool) (positive : ret ≠ 0) {tested : Register}
    {blocks : List Block} (nonempty : blocks ≠ []) (each : ∀ block ∈ blocks, block.Answers tested) :
    (scope (chain wanted ret tested blocks)).Answers ret where
  closed := trivial
  assigned known := (assigned_chain wanted positive each known).1
  answered known :=
    have chained := assigned_chain wanted positive each known
    ⟨chained.2.2 (.inl nonempty), chained.2.1⟩

section Rules

variable {accepts : String → Bool}

theorem answers_ofCondition {condition : Condition} (sound : condition.defect? accepts = none)
    (inUse : Nat) (positive : ret ≠ 0) : (ofCondition condition inUse ret).Answers ret :=
  ofCondition_induction (P := Answers)
    (fun wanted _ _ _ positive nonempty each => answers_scope wanted positive nonempty each)
    (fun _ _ positive answers => answers.negate positive)
    (fun cmp _ left right positive => answers_comparison positive cmp left right)
    (fun _ _ answers => answers.append_empty) sound inUse positive

theorem assigned_ofStatements {rules : List Statement}
    (sound : statementsDefect? accepts rules = none) (inUse : Nat) (known : Set Register) :
    (ofStatements inUse rules).Assigned known := by
  refine ofStatements_induction (P := fun block => ∀ known, block.Assigned known)
    (fun _ => trivial) (fun _ _ first second known => ⟨first known, second _⟩) ?_ ?_ ?_ sound inUse
    known
  · intro condition inUse body sound assigned known
    have answers := answers_ofCondition sound (inUse + 1) (Nat.succ_ne_zero inUse)
    exact ⟨answers.assigned known, answers.answered known, assigned _⟩
  · exact fun score op amount _ known register reading =>
      absurd reading (Instruction.not_reads (by cases op <;> rfl) register)
  · exact fun known register reading => absurd reading (Instruction.not_reads rfl register)

theorem assigned_ofProgram {rules : List Statement} (sound : statementsDefect? accepts rules = none)
    (known : Set Register) : (ofProgram rules).Assigned known :=
  ⟨assigned_ofStatements sound 0 known, fun register reading =>
    absurd reading (Instruction.not_reads rfl register)⟩

end Rules

end Block

namespace Code

variable {accepts : String → Bool} {rules : List Statement} {code : Code}

theorem assigned_of_generate (generated : (generate accepts rules).1 = .ok code) :
    code.Assigned 0 ∅ := by
  obtain ⟨sound, shape⟩ := eq_layout_of_generate generated
  have behind (known : Set Register) : code.Assigned code.size known :=
    .behind (Array.getElem?_eq_none (Nat.le_refl _))
  have size : code.size = (Block.ofProgram rules).size := by
    rw [shape, List.size_toArray, Block.length_layout]
  have placed : code.toList = [] ++
      ((Block.ofProgram rules).layout ([] : List Instruction).length (some code.size) ++ []) := by
    rw [Block.layout_of_closed (Block.closed_ofProgram rules) _ _ none, List.append_nil, shape]
    rfl
  refine (Block.assigned_ofProgram sound ∅).of_placed placed ?_ (behind _)
  rw [List.length_nil, Nat.zero_add, ← size]
  exact behind _

/-- Each register that a run of generated code reads has been written before in that run, and so
the run is the same whatever registers hold at its start. -/
theorem generate_writes_first (generated : (generate accepts rules).1 = .ok code)
    (isMatch : String → String → Bool) (vars : Variables) :
    (∀ budget before dispatch after register,
      code.dispatched isMatch budget vars = before ++ dispatch :: after →
        dispatch.2.Reads register → ∃ earlier ∈ before, register ∈ earlier.2.written) ∧
    (∀ (machine : Machine) (instruction : Instruction) (register : Register),
      Machine.Reaches ⟨code.size, vars, isMatch⟩ code .start machine →
        code[machine.pc]? = some instruction → instruction.Reads register →
          machine.registers.contains register = true) ∧
    ∀ {σ : Type*} (observe : σ → Event → σ) (seen : σ) (budget : Nat)
      (registers : OrderedMap Register Bool), code.size < budget →
        Machine.runFrom observe ⟨code.size, vars, isMatch⟩ code budget 0
            { Machine.start with registers } seen =
          code.observedRun observe seen isMatch budget vars := by
  have assigned : code.Assigned Machine.start.pc ∅ := assigned_of_generate generated
  refine ⟨fun budget before dispatch after register split reading => ?_,
    fun machine instruction register reaches fetched reading => ?_,
    fun observe seen budget registers enough => ?_⟩
  · rw [dispatched_eq_dispatches] at split
    exact (assigned.dispatches split reading).resolve_left (Set.notMem_empty register)
  · exact assigned.contains ⟨rfl, rfl, nofun⟩ reaches fetched reading
  · have alike : Machine.Alike ∅ Machine.start { Machine.start with registers } :=
      ⟨rfl, rfl, nofun⟩
    rcases assigned.runFrom observe alike budget 0 seen with same | ⟨last, unfinished⟩
    · exact same.symm
    · rw [Machine.fst_runFrom] at unfinished
      exact absurd unfinished (ending_ne_unfinished_of_generate generated enough last)

theorem generate_writes_first_clause :
    ∃ code : Code,
      (generate (fun _ => true)
        [.rule [[.scalar (.score "a") .less (.int 1),
            .list (.var "t") true [.string "x", .string "y"]]] [.change "a" .add (.int 1)]]).1 =
        .ok code ∧
      code.size = 12 ∧
      ∀ isMatch vars,
        Machine.runFrom (fun _ _ => ()) ⟨code.size, vars, isMatch⟩ code 13 0
            { Machine.start with registers := OrderedMap.empty.insert 2 true } () =
          code.observedRun (fun _ _ => ()) () isMatch 13 vars := by
  have generated := congrArg Prod.fst (generate_of_sound (rfl : statementsDefect? (fun _ => true)
    [.rule [[.scalar (.score "a") .less (.int 1),
        .list (.var "t") true [.string "x", .string "y"]]] [.change "a" .add (.int 1)]] = none))
  refine ⟨_, generated, rfl, fun isMatch vars => ?_⟩
  obtain ⟨-, -, same⟩ := generate_writes_first generated isMatch vars
  exact same (fun _ _ => ()) () 13 _ (by decide)

end Code

end ScoringRules
