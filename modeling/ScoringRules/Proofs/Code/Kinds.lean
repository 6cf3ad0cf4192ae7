import ScoringRules.Proofs.Code.Compilation
import ScoringRules.Proofs.Code.Shape
import ScoringRules.Proofs.Data.General
import ScoringRules.Proofs.Machine.Comparison
import ScoringRules.Proofs.Rule.Kinds

/-!
Runs of a compiled source can only fail at a comparison whose values do not fit. The comparisons of
the code are those of the source, in the same order, so each has a condition that it comes from.
-/

namespace ScoringRules

def Instruction.comparison? (instruction : Instruction) : Option Instruction :=
  if instruction.operation.compares then some { instruction with ret := 0 } else none

def Test.instruction (test : Test) : Instruction :=
  .compare test.comparison.operation 0 test.left.operand test.right.operand

theorem Instruction.comparison?_compare (cmp : Comparison) (ret : Register)
    (left right : Value) :
    (Instruction.compare cmp.operation ret left.operand right.operand).comparison? =
      some (.compare cmp.operation 0 left.operand right.operand) :=
  if_pos cmp.compares_operation

namespace Block

def comparisons : Block → List Instruction
  | empty | leave _ _ _ => []
  | single instruction _ => instruction.comparison?.toList
  | append first second => first.comparisons ++ second.comparisons
  | scope body => body.comparisons

theorem filterMap_layout (block : Block) (start : Nat) (exit : Option Nat) :
    (block.layout start exit).filterMap Instruction.comparison? = block.comparisons := by
  induction block generalizing start exit with
  | empty => rfl
  | single instruction straight =>
    rw [layout, comparisons, List.filterMap_cons, List.filterMap_nil]
    cases instruction.comparison? <;> rfl
  | append first second ihFirst ihSecond =>
    rw [layout, List.filterMap_append, ihFirst, ihSecond, comparisons]
  | scope body ih => exact ih _ _
  | leave wanted ret tested =>
    cases exit with
    | none => rfl
    | some target => cases wanted <;> rfl

theorem comparisons_comparison (cmp : Comparison) (ret : Register) (left right : Value) :
    (comparison cmp ret left right).comparisons =
      [.compare cmp.operation 0 left.operand right.operand] :=
  congrArg Option.toList (Instruction.comparison?_compare cmp ret left right)

theorem comparisons_chain (wanted : Bool) (ret tested : Register) (blocks : List Block) :
    (chain wanted ret tested blocks).comparisons = blocks.flatMap comparisons := by
  induction blocks with
  | nil => rfl
  | cons first rest ih =>
    rw [List.flatMap_cons, ← ih]
    exact congrArg (· ++ _) (List.append_nil _)

section Items

variable {items : List α} {part : α → Part} {tests : α → List Test}
  (each : ∀ item ∈ items, ∀ inUse ret,
    (part item inUse ret).comparisons = (tests item).map Test.instruction)

include each

theorem comparisons_search (wanted : Bool) (inUse : Nat) (ret : Register) :
    (search wanted inUse ret (items.map part)).comparisons =
      (items.flatMap tests).map Test.instruction := by
  rw [search, comparisons, comparisons_chain, members, List.map_map, List.flatMap_map,
    List.map_flatMap]
  exact List.flatMap_congr fun item member => each item member _ _

theorem comparisons_any (inUse : Nat) (ret : Register) :
    (any (items.map part) inUse ret).comparisons = (items.flatMap tests).map Test.instruction := by
  match items with
  | [] => rfl
  | [item] =>
    rw [List.flatMap_singleton]
    exact each item (List.mem_singleton_self item) inUse ret
  | _ :: _ :: _ => exact comparisons_search each true inUse ret

theorem comparisons_all (inUse : Nat) (ret : Register) :
    (all (items.map part) inUse ret).comparisons = (items.flatMap tests).map Test.instruction := by
  match items with
  | [] => rfl
  | [item] =>
    rw [List.flatMap_singleton]
    exact each item (List.mem_singleton_self item) inUse ret
  | _ :: _ :: _ =>
    exact (List.append_nil _).trans (comparisons_search each false inUse ret)

end Items

theorem comparisons_ofCondition (condition : Condition) (inUse : Nat) (ret : Register) :
    (ofCondition condition inUse ret).comparisons = condition.tests.map Test.instruction := by
  induction condition using Condition.induction generalizing inUse ret with
  | scalar left cmp right =>
    rw [ofCondition, Condition.tests]
    exact comparisons_comparison cmp ret left right
  | list left negated values =>
    have found : (search true inUse ret (values.map fun value _ ret =>
        comparison .equal ret left value)).comparisons = (values.flatMap fun value =>
          [⟨.list left negated values, left, .equal, value⟩]).map Test.instruction :=
      comparisons_search (fun value _ _ ret => comparisons_comparison .equal ret left value) _ _ _
    rw [← List.map_eq_flatMap] at found
    rw [ofCondition, Condition.tests, ← found]
    cases negated <;> exact List.append_nil _
  | nested clauses ih =>
    rw [ofCondition_nested, Condition.tests_nested]
    refine comparisons_any (fun clause inside inUse ret => ?_) inUse ret
    exact comparisons_all (ih clause inside) inUse ret

theorem comparisons_ofStatements {statements : List Statement} {inUse : Nat}
    (each : ∀ statement ∈ statements,
      (ofStatement inUse statement).comparisons = statement.tests.map Test.instruction) :
    (ofStatements inUse statements).comparisons =
      (statementTests statements).map Test.instruction := by
  induction statements with
  | nil => rfl
  | cons first rest ih =>
    obtain ⟨eachFirst, eachRest⟩ := List.forall_mem_cons.mp each
    rw [statementTests, List.map_append, ← eachFirst, ← ih eachRest]
    rfl

theorem comparisons_ofStatement (inUse : Nat) (statement : Statement) :
    (ofStatement inUse statement).comparisons = statement.tests.map Test.instruction := by
  induction statement using Statement.induction generalizing inUse with
  | rule condition consequences ih =>
    have tested := comparisons_ofCondition (.nested condition) (inUse + 1) (inUse + 1)
    have behind := comparisons_ofStatements fun statement member => ih statement member (inUse + 1)
    rw [ofCondition_nested] at tested
    rw [ofStatement, Statement.tests, List.map_append, ← tested, ← behind]
    rfl
  | change score op amount =>
    rw [ofStatement, Statement.tests, comparisons, Instruction.comparison?]
    cases op <;> rfl
  | exit =>
    rw [ofStatement, Statement.tests]
    rfl

theorem comparisons_ofProgram (rules : List Statement) :
    (ofProgram rules).comparisons = (statementTests rules).map Test.instruction := by
  rw [← comparisons_ofStatements fun statement _ => comparisons_ofStatement 0 statement]
  exact List.append_nil _

end Block

namespace Code

variable {accepts : String → Bool} {rules : List Statement} {code : Code}

/-- The instruction at an index makes a comparison of the rules: as many comparisons stand in front
of it in the code as there. -/
def Tests (code : Code) (rules : List Statement) (index : Nat) (test : Test) : Prop :=
  (∃ ret, code[index]? =
    some (.compare test.comparison.operation ret test.left.operand test.right.operand)) ∧
  (statementTests rules)[(code.toList.take index).countP fun instruction =>
    instruction.operation.compares]? = some test

theorem comparisons_of_generate (generated : (generate accepts rules).1 = .ok code) :
    code.toList.filterMap Instruction.comparison? =
      (statementTests rules).map Test.instruction := by
  rw [congrArg Array.toList (eq_layout_of_generate generated).2, Block.filterMap_layout,
    Block.comparisons_ofProgram]

theorem tests_of_generate (generated : (generate accepts rules).1 = .ok code) {index : Nat}
    {instruction : Instruction} (fetched : code[index]? = some instruction)
    (compares : instruction.operation.compares = true) : ∃ test, code.Tests rules index test := by
  rw [← Array.getElem?_toList] at fetched
  have found := getElem?_filterMap (f := Instruction.comparison?) fetched (if_pos compares)
  have same : (fun instruction : Instruction => instruction.comparison?.isSome) =
      fun instruction => instruction.operation.compares := by
    funext instruction
    cases compares : instruction.operation.compares <;> simp [Instruction.comparison?, compares]
  rw [comparisons_of_generate generated, same, List.getElem?_map, Option.map_eq_some_iff] at found
  obtain ⟨test, there, made⟩ := found
  refine ⟨test, ⟨instruction.ret, ?_⟩, there⟩
  rw [← Array.getElem?_toList, fetched]
  obtain ⟨operation, ret, left, right⟩ := instruction
  injection made with sameOperation _ sameLeft sameRight
  dsimp only at sameOperation sameLeft sameRight ⊢
  rw [← sameOperation, ← sameLeft, ← sameRight]
  rfl

theorem misfit_of_execute {test : Test} {ret : Register} {env : Environment} {machine : Machine}
    {error : RuntimeError} (failed : machine.execute env (.compare test.comparison.operation ret
      test.left.operand test.right.operand) = .error error) :
    ¬ test.fits = true ∧ ∃ expected found,
      error = .invalidOperand test.comparison.operation expected found machine.pc := by
  constructor
  · intro fits
    obtain ⟨answer, made⟩ := test.comparison.exists_holds (machine.setting env) fits
    rw [Machine.execute_comparison, made] at failed
    cases failed
  · rcases Machine.execute_eq_error failed with ⟨expected, found, same⟩ | ⟨jumps, -⟩
    · exact ⟨expected, found, same⟩
    · exact absurd jumps (by cases test.comparison <;> nofun)

theorem test_of_failed (generated : (generate accepts rules).1 = .ok code)
    {isMatch : String → String → Bool} {vars : Variables} {budget : Nat} {error : RuntimeError}
    (failed : code.run isMatch budget vars = .failed error) :
    ∃ index test expected found, code.Tests rules index test ∧
      error = .invalidOperand test.comparison.operation expected found index ∧
      ¬ test.condition.WellKinded := by
  rw [run_eq_ending] at failed
  obtain ⟨last, instruction, fetched, executed⟩ := Machine.ending_eq_failed failed
  cases compares : instruction.operation.compares with
  | false =>
    obtain ⟨result, done⟩ := execute_of_generate generated fetched compares isMatch vars last
    rw [done] at executed
    cases executed
  | true =>
    obtain ⟨test, ⟨ret, placed⟩, listed⟩ := tests_of_generate generated fetched compares
    obtain rfl := Option.some.inj (fetched.symm.trans placed)
    obtain ⟨misfit, expected, found, same⟩ := misfit_of_execute executed
    exact ⟨last.pc, test, expected, found, ⟨⟨ret, placed⟩, listed⟩, same,
      not_wellKinded_of_test (List.mem_of_getElem? listed) misfit⟩

/-- Runs of a compiled source finish if its conditions are well-kinded. They fail at nothing but a
comparison that belongs to a condition that is not. -/
theorem compile_kind_sound {source : String} (compiled : compile accepts source = .ok code) :
    ∃ tokens rules, Reads source tokens rules ∧
      (∀ isMatch vars budget, code.size < budget →
        (∀ test ∈ statementTests rules, test.condition.WellKinded) →
          ∃ scores, code.run isMatch budget vars = .finished scores) ∧
      (∀ isMatch vars budget error, code.run isMatch budget vars = .failed error →
        ∃ index test expected found, code.Tests rules index test ∧
          error = .invalidOperand test.comparison.operation expected found index ∧
          ¬ test.condition.WellKinded) ∧
      ∀ (index : Nat) (instruction : Instruction), code[index]? = some instruction →
        instruction.operation.compares = false →
        ∀ (isMatch : String → String → Bool) (vars : Variables) (machine : Machine),
          ∃ result, machine.execute ⟨code.size, vars, isMatch⟩ instruction = .ok result := by
  obtain ⟨tokens, rules, reads, generated⟩ := reads_of_compile compiled
  refine ⟨tokens, rules, reads, fun isMatch vars budget enough kinds => ?_,
    fun isMatch vars budget error failed => test_of_failed generated failed,
    fun index instruction fetched other isMatch vars machine =>
      execute_of_generate generated fetched other isMatch vars machine⟩
  cases ended : code.run isMatch budget vars with
  | finished scores => exact ⟨scores, rfl⟩
  | failed error =>
    obtain ⟨index, test, _, _, tests, -, other⟩ := test_of_failed generated ended
    exact absurd (kinds test (List.mem_of_getElem? tests.2)) other
  | unfinished machine =>
    rw [run_eq_ending] at ended
    exact absurd ended (ending_ne_unfinished_of_generate generated enough machine)

theorem compile_kind_sound_matchRule :
    ∃ code : Code, compile (fun _ => true) "when var(t) matches /x/ then exit done" = .ok code ∧
      code.size = 4 ∧ ∀ isMatch vars, ∃ scores, code.run isMatch 5 vars = .finished scores := by
  have reads : Reads "when var(t) matches /x/ then exit done"
      [⟨.keyword .when, ⟨0, 1, 1⟩⟩, ⟨.keyword .var, ⟨5, 1, 6⟩⟩,
        ⟨.symbol .leftParen, ⟨8, 1, 9⟩⟩, ⟨.identifier "t", ⟨9, 1, 10⟩⟩,
        ⟨.symbol .rightParen, ⟨10, 1, 11⟩⟩, ⟨.keyword .matches_, ⟨12, 1, 13⟩⟩,
        ⟨.regex "x", ⟨20, 1, 21⟩⟩, ⟨.keyword .then_, ⟨24, 1, 25⟩⟩, ⟨.keyword .exit, ⟨29, 1, 30⟩⟩,
        ⟨.keyword .done, ⟨34, 1, 35⟩⟩, ⟨.endOfInput, ⟨38, 1, 39⟩⟩]
      [.rule [[.scalar (.var "t") .matches_ (.regex "x" ⟨20, 1, 21⟩)]] [.exit]] :=
    ⟨by cbv, by cbv⟩
  have generated := congrArg Prod.fst (generate_of_sound (rfl : statementsDefect? (fun _ => true)
    [.rule [[.scalar (.var "t") .matches_ (.regex "x" ⟨20, 1, 21⟩)]] [.exit]] = none))
  have compiled := (compile_of_reads reads).trans generated
  obtain ⟨tokens, rules, again, finishes, -⟩ := compile_kind_sound compiled
  obtain ⟨-, rfl⟩ := reads.unique again
  refine ⟨_, compiled, rfl, fun isMatch vars => finishes isMatch vars 5 (by decide)
    (by decide)⟩

end Code

end ScoringRules
