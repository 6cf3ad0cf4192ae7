import ScoringRules.Proofs.Code.Names
import ScoringRules.Proofs.Code.Text

/-!
Compiled code on lines of text. Names are words there, so a line shows the whole instruction, but
for one thing: behind a pattern on the left it is not seen where the pattern ends. Whatever the
patterns, such an instruction fails, and codes with the same lines run alike.
-/

namespace ScoringRules

theorem Operation.prefixCode_name :
    PrefixCode (fun _ : Operation => True) fun operation => operation.name.toList ++ [' '] :=
  .terminated (fun operation _ => operation.blank_notMem_name)
    fun _ _ _ _ same => Operation.name_injective (String.toList_inj.mp same)

namespace Operand

/-- A blank in the text can only be one of a quoted string. -/
def Plain (operand : Operand) : Prop :=
  operand.kind ≠ .regex ∧ ∀ name ∈ operand.names, ' ' ∉ name.toList

theorem blank_notMem_text {operand : Operand} (plain : operand.Plain)
    (unquoted : operand.kind ≠ .string) : ' ' ∉ operand.text.toList := by
  obtain ⟨other, words⟩ := plain
  cases operand with
  | string value => exact absurd rfl unquoted
  | regex pattern => exact absurd rfl other
  | int value => exact blank_notMem_toString_int _
  | scratch register => simpa [text, Register.text] using blank_notMem_toString_nat register
  | position index => simpa [text] using blank_notMem_toString_nat index
  | score name | var name =>
    have word : ' ' ∉ name.toList := words name (List.mem_singleton_self name)
    simpa [text] using word

theorem plain_scratch (register : Register) : (scratch register).Plain :=
  ⟨nofun, List.forall_mem_nil _⟩

theorem prefixCode_text : PrefixCode Plain fun operand => operand.text.toList ++ [' '] := by
  intro operand other plain plainToo s t same
  simp only [List.append_assoc] at same
  have kinds : operand.kind = other.kind := by
    rw [← frontKind_text operand, same, frontKind_text]
  by_cases quotes : operand.kind = .string
  · cases operand with
    | string value =>
      cases other <;> cases kinds
      rename_i value'
      rw [text, text] at same
      obtain ⟨rfl, behind⟩ := prefixCode_quoted trivial trivial same
      exact ⟨rfl, List.append_cancel_left behind⟩
    | _ => cases quotes
  · obtain ⟨texts, behind⟩ := eq_of_append_stop (blank_notMem_text plain quotes)
      (blank_notMem_text plainToo (kinds ▸ quotes)) same
    exact ⟨text_injective (String.toList_inj.mp texts), behind⟩

theorem ne_arrow (operand : Operand) (s t : List Char) :
    operand.text.toList ++ s ≠ '<' :: t := by
  intro same
  cases operand with
  | int value =>
    rw [text] at same
    obtain ⟨n, ⟨shape, -⟩ | ⟨shape, -⟩⟩ := toList_toString_int value.toInt
    · obtain ⟨c, rest, digits⟩ := List.exists_cons_of_ne_nil (toList_toString_ne_nil n)
      rw [shape, digits] at same
      have arrow : '<' ∈ (toString n).toList := by
        rw [digits, (List.cons.inj same).1]
        exact List.mem_cons_self
      exact absurd (isDigit_of_mem_toString arrow) (by decide)
    · rw [shape] at same
      exact absurd (List.cons.inj same).1 (by decide)
  | _ => simp [text, quoted, Register.text] at same

end Operand

namespace Instruction

def retWord (ret : Register) : List Char :=
  if ret = 0 then [] else (Register.text ret).toList ++ [' '] ++ ['<', '-', ' ']

theorem retWord_append {ret : Register} (positive : ret ≠ 0) (rest : List Char) :
    retWord ret ++ rest = (Register.text ret).toList ++ [' '] ++ '<' :: '-' :: ' ' :: rest := by
  simp [retWord, positive]

def operandWord (operand : Option Operand) : List Char :=
  (operand.map fun operand => operand.text.toList ++ [' ']).getD []

theorem toList_text (instruction : Instruction) : instruction.text.toList ++ [' '] =
    instruction.operation.name.toList ++ [' '] ++ (retWord instruction.ret ++
      (operandWord instruction.left ++ operandWord instruction.right)) := by
  obtain ⟨operation, ret, left, right⟩ := instruction
  by_cases none : ret = 0 <;> cases left <;> cases right <;>
    simp [text, retWord, operandWord, none]

theorem operandWord_injective : Function.Injective operandWord := by
  intro operand other same
  cases operand <;> cases other
  case none.none => rfl
  case none.some => simp [operandWord] at same
  case some.none => simp [operandWord] at same
  case some.some operand other =>
    exact congrArg some
      (Operand.text_injective (String.toList_inj.mp (List.append_cancel_right same)))

/-- There is no second operand alone, and names have no blanks. -/
structure Legible (instruction : Instruction) : Prop where
  right : instruction.left = none → instruction.right = none
  words : ∀ name ∈ instruction.names, ' ' ∉ name.toList

/-- The instructions are the same, or both have a pattern on the left. -/
inductive Alike : Instruction → Instruction → Prop where
  | same (instruction : Instruction) : Alike instruction instruction
  | patterns (operation : Operation) (ret : Register) (pattern other : String)
      (right right' : Option Operand) :
      Alike ⟨operation, ret, some (.regex pattern), right⟩
        ⟨operation, ret, some (.regex other), right'⟩

variable {a b : Instruction}

theorem Legible.plain (legible : a.Legible) {operand : Operand} (left : a.left = some operand)
    (other : operand.kind ≠ .regex) : operand.Plain := by
  refine ⟨other, fun name member => legible.words name ?_⟩
  rw [names, left]
  exact List.mem_append_left _ (List.mem_append_left _ member)

theorem Legible.ne_arrow (legible : a.Legible) (ret : Register) (behind : List Char) :
    operandWord a.left ++ operandWord a.right ≠
      (Register.text ret).toList ++ [' '] ++ '<' :: behind := by
  intro same
  cases left : a.left with
  | none =>
    rw [left, legible.right left] at same
    simp [operandWord] at same
  | some operand =>
    rw [left] at same
    have word : operandWord (some operand) = operand.text.toList ++ [' '] := rfl
    rw [word] at same
    have kind : operand.kind = .scratch := by
      have front := congrArg Operand.frontKind same
      rw [List.append_assoc, List.append_assoc, Operand.frontKind_text] at front
      exact front.trans (Operand.frontKind_text (.scratch ret) _)
    obtain ⟨-, rest⟩ := Operand.prefixCode_text (legible.plain left (by simp [kind]))
      (Operand.plain_scratch ret) same
    cases right : a.right with
    | none => simp [right, operandWord] at rest
    | some other =>
      rw [right] at rest
      exact other.ne_arrow [' '] behind rest

theorem ret_of_line (legible : a.Legible) (legibleToo : b.Legible)
    (line : retWord a.ret ++ (operandWord a.left ++ operandWord a.right) =
      retWord b.ret ++ (operandWord b.left ++ operandWord b.right)) :
    a.ret = b.ret ∧ operandWord a.left ++ operandWord a.right =
      operandWord b.left ++ operandWord b.right := by
  by_cases none : a.ret = 0 <;> by_cases noneToo : b.ret = 0
  · rw [none, noneToo] at line
    exact ⟨none.trans noneToo.symm, line⟩
  · rw [none, retWord_append noneToo] at line
    exact absurd line (legible.ne_arrow _ _)
  · rw [noneToo, retWord_append none] at line
    exact absurd line.symm (legibleToo.ne_arrow _ _)
  · rw [retWord_append none, retWord_append noneToo] at line
    obtain ⟨rets, rest⟩ :=
      Operand.prefixCode_text (Operand.plain_scratch a.ret) (Operand.plain_scratch b.ret) line
    simp only [List.cons.injEq, true_and] at rest
    exact ⟨Operand.scratch.inj rets, rest⟩

theorem alike_of_text (legible : a.Legible) (legibleToo : b.Legible) (same : a.text = b.text) :
    a.Alike b := by
  have line : a.text.toList ++ [' '] = b.text.toList ++ [' '] := by rw [same]
  rw [toList_text, toList_text] at line
  obtain ⟨operations, line⟩ := Operation.prefixCode_name trivial trivial line
  obtain ⟨rets, line⟩ := ret_of_line legible legibleToo line
  obtain ⟨operation, ret, left, right⟩ := a
  obtain ⟨operation', ret', left', right'⟩ := b
  obtain rfl : operation = operation' := operations
  obtain rfl : ret = ret' := rets
  dsimp only at line
  match left, left' with
  | none, none =>
    obtain rfl : right = none := legible.right rfl
    obtain rfl : right' = none := legibleToo.right rfl
    exact .same _
  | none, some other =>
    obtain rfl : right = none := legible.right rfl
    simp [operandWord] at line
  | some operand, none =>
    obtain rfl : right' = none := legibleToo.right rfl
    simp [operandWord] at line
  | some operand, some other =>
    have kinds : operand.kind = other.kind := by
      have front := congrArg Operand.frontKind line
      simpa [operandWord, Operand.frontKind_text] using front
    -- The text of a pattern does not show where it ends, so nothing is known of what follows it.
    by_cases pattern : operand.kind = .regex
    · cases operand with
      | regex source =>
        cases other <;> cases kinds
        exact .patterns _ _ _ _ _ _
      | _ => cases pattern
    · obtain ⟨rfl, rights⟩ := Operand.prefixCode_text (legible.plain rfl pattern)
        (legibleToo.plain rfl (kinds ▸ pattern)) line
      obtain rfl := operandWord_injective rights
      exact .same _

theorem Alike.execute_eq (alike : a.Alike b) (env : Environment) (machine : Machine) :
    machine.execute env a = machine.execute env b := by
  cases alike with
  | same => rfl
  | patterns operation => cases operation <;> rfl

end Instruction

namespace Machine

variable {env : Environment} {code other : Code}

theorem turn_eq_of_alike
    (alike : ∀ index : Nat, Option.Rel Instruction.Alike code[index]? other[index]?)
    (machine : Machine) : machine.turn env code = machine.turn env other := by
  have here := alike machine.pc
  unfold turn
  generalize code[machine.pc]? = fetched at here ⊢
  generalize other[machine.pc]? = fetchedToo at here ⊢
  cases here with
  | none => rfl
  | some same => simp only [same.execute_eq]

theorem ending_eq_of_alike
    (alike : ∀ index : Nat, Option.Rel Instruction.Alike code[index]? other[index]?) (budget : Nat)
    (machine : Machine) : ending env code budget machine = ending env other budget machine := by
  induction budget generalizing machine with
  | zero => rfl
  | succ budget ih =>
    unfold ending
    rw [turn_eq_of_alike alike]
    cases machine.turn env other with
    | next machine => exact ih machine
    | stop result => rfl

end Machine

namespace Code

variable {accepts : String → Bool} {first second : String} {a b : Code}

theorem legible_of_compile {source : String} {code : Code}
    (compiled : compile accepts source = .ok code) {index : Nat} {instruction : Instruction}
    (fetched : code[index]? = some instruction) : instruction.Legible := by
  refine ⟨?_, fun name member =>
    (isName_of_compile compiled (Array.mem_of_getElem? fetched) member).notMem (by decide)⟩
  obtain ⟨tokens, rules, -, generated⟩ := reads_of_compile compiled
  rcases made_of_generate generated fetched with made | ⟨wanted, ret, tested, target, -, rfl⟩
  · cases made with
    | comparison | negation | change => nofun
    | exit | noop => exact fun _ => rfl
  · nofun

/-- Two sources whose codes have the same lines run alike, and their runs end. -/
theorem run_eq_of_text (compiledFirst : compile accepts first = .ok a)
    (compiledSecond : compile accepts second = .ok b)
    (listed : a.toList.map Instruction.text = b.toList.map Instruction.text)
    (isMatch : String → String → Bool) (budget : Nat) (vars : Variables) :
    a.run isMatch budget vars = b.run isMatch budget vars ∧
      (a.size < budget → ∀ machine, a.run isMatch budget vars ≠ .unfinished machine) := by
  have sizes : a.size = b.size := by
    simpa only [List.length_map, Array.length_toList] using congrArg List.length listed
  have alike (index : Nat) : Option.Rel Instruction.Alike a[index]? b[index]? := by
    have line := congrArg (·[index]?) listed
    simp only [List.getElem?_map, Array.getElem?_toList] at line
    cases fetched : a[index]? <;> cases fetchedToo : b[index]? <;> rw [fetched, fetchedToo] at line
    case none.none => exact .none
    case none.some => cases line
    case some.none => cases line
    case some.some =>
      exact .some (Instruction.alike_of_text (legible_of_compile compiledFirst fetched)
        (legible_of_compile compiledSecond fetchedToo) (Option.some.inj line))
  rw [run_eq_ending, run_eq_ending, ← sizes]
  refine ⟨Machine.ending_eq_of_alike alike budget .start, fun enough => ?_⟩
  obtain ⟨_, _, -, generated⟩ := reads_of_compile compiledFirst
  exact ending_ne_unfinished_of_generate generated enough

theorem run_eq_of_text_patterns :
    ∃ a b : Code,
      compile (fun _ => true) "when /a/ == /b\\/ \\/c/ then done" = .ok a ∧
      compile (fun _ => true) "when /a\\/ \\/b/ == /c/ then done" = .ok b ∧ a ≠ b ∧
      a.toList.map Instruction.text = b.toList.map Instruction.text ∧
      ∀ isMatch vars, a.run isMatch 5 vars = b.run isMatch 5 vars := by
  have compiledFirst : compile (fun _ => true) "when /a/ == /b\\/ \\/c/ then done" =
      .ok #[.compare .isEqual 1 (.regex "a") (.regex "b/ /c"), .jump .jumpIfFalse 0 1 2,
        .plain .noop] := by cbv
  have compiledSecond : compile (fun _ => true) "when /a\\/ \\/b/ == /c/ then done" =
      .ok #[.compare .isEqual 1 (.regex "a/ /b") (.regex "c"), .jump .jumpIfFalse 0 1 2,
        .plain .noop] := by cbv
  refine ⟨_, _, compiledFirst, compiledSecond, by decide, by decide, fun isMatch vars => ?_⟩
  exact (run_eq_of_text compiledFirst compiledSecond (by decide) isMatch 5 vars).1

end Code

end ScoringRules
