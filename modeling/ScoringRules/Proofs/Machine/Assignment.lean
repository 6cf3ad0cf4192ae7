import ScoringRules.Proofs.Machine.Forward
import Mathlib.Data.Set.Basic

/-!
Registers that are written before they are read. If every way through the code from a place on
writes a register before it reads it, unless it is among those written so far, then a run from
there cannot tell what the other registers held at first.
-/

namespace ScoringRules

def Operation.answers : Operation → Bool
  | .noop | .exit | .addScore | .subScore | .setScore => false
  | _ => true

def Operation.readsRegister : Operation → Bool
  | .jumpIfFalse | .jumpIfTrue | .negate => true
  | _ => false

namespace Instruction

/-- The registers that hold a new value when the instruction has been executed. -/
def written (instruction : Instruction) : Set Register :=
  {register | register ≠ 0 ∧ register = instruction.ret ∧ instruction.operation.answers = true}

def Reads (instruction : Instruction) (register : Register) : Prop :=
  instruction.operation.readsRegister = true ∧ instruction.left = some (.scratch register)

theorem written_of_silent {instruction : Instruction}
    (silent : instruction.operation.answers = false) : instruction.written = ∅ := by
  ext register
  simp [written, silent]

theorem not_reads {instruction : Instruction}
    (blind : instruction.operation.readsRegister = false) (register : Register) :
    ¬ instruction.Reads register := by
  rintro ⟨reads, -⟩
  rw [blind] at reads
  cases reads

end Instruction

/-- From an index on, code reads a register only if it is one of these, or has been written on the
way. -/
inductive Code.Assigned (code : Code) : Nat → Set Register → Prop where
  | behind {index : Nat} {known : Set Register} (outside : code[index]? = none) :
      Assigned code index known
  | here {index : Nat} {known : Set Register} {instruction : Instruction}
      (fetched : code[index]? = some instruction)
      (reads : ∀ register, instruction.Reads register → register ∈ known)
      (onward : Assigned code (index + 1) (known ∪ instruction.written))
      (jumps : ∀ target, instruction.operation.isJump = true →
        instruction.right = some (.position target) →
          Assigned code target (known ∪ instruction.written)) :
      Assigned code index known

namespace Machine

variable {env : Environment} {code : Code} {known : Set Register}

/-- Two machines at one place with the same scores, each with a value in these registers that is
the same in both. -/
structure Alike (known : Set Register) (a b : Machine) : Prop where
  pc : a.pc = b.pc
  scores : a.scores = b.scores
  registers : ∀ register ∈ known, ∃ value,
    a.registers.get? register = some value ∧ b.registers.get? register = some value

inductive Together (known : Set Register) :
    Except RuntimeError (Machine × Flow) → Except RuntimeError (Machine × Flow) → Prop where
  | failed (error : RuntimeError) : Together known (.error error) (.error error)
  | done {a b : Machine} (flow : Flow) (alike : Alike known a b) :
      Together known (.ok (a, flow)) (.ok (b, flow))

theorem Together.bind (result : Except RuntimeError α)
    {first second : α → Except RuntimeError (Machine × Flow)}
    (each : ∀ value, Together known (first value) (second value)) :
    Together known (result >>= first) (result >>= second) := by
  cases result with
  | error error => exact .failed error
  | ok value => exact each value

namespace Alike

variable {a b : Machine} {instruction : Instruction}

theorem write (alike : Alike known a b) (instruction : Instruction) (value : Bool) :
    Alike (known ∪ instruction.written) (a.writeRegister instruction.ret value)
      (b.writeRegister instruction.ret value) := by
  refine ⟨by simp [alike.pc], by simp [alike.scores], fun register member => ?_⟩
  unfold writeRegister
  by_cases zero : instruction.ret = 0
  · rw [if_pos zero, if_pos zero]
    rcases member with before | ⟨positive, same, -⟩
    · exact alike.registers register before
    · exact absurd (same.trans zero) positive
  · rw [if_neg zero, if_neg zero]
    by_cases same : register = instruction.ret
    · exact ⟨value, by simp [same], by simp [same]⟩
    · obtain ⟨old, left, right⟩ :=
        alike.registers register (member.resolve_right fun now => same now.2.1)
      exact ⟨old, by simp [same, left], by simp [same, right]⟩

theorem moveTo (alike : Alike known a b) (target : Nat) :
    Alike known { a with pc := target } { b with pc := target } :=
  ⟨rfl, alike.scores, alike.registers⟩

theorem change (alike : Alike known a b) (name : String) (value : Int64) :
    Alike known (a.writeScore name value) (b.writeScore name value) :=
  ⟨alike.pc, congrArg (·.insert name value) alike.scores, alike.registers⟩

theorem scratchOperand_eq (alike : Alike known a b) (operation : Operation)
    {operand : Option Operand}
    (reads : ∀ register, operand = some (.scratch register) → register ∈ known) :
    a.scratchOperand operation operand = b.scratchOperand operation operand := by
  unfold scratchOperand
  split
  · rename_i register
    obtain ⟨value, left, right⟩ := alike.registers register (reads register rfl)
    simp only [readRegister, OrderedMap.getD, left, right]
  · rw [invalid, invalid, alike.pc]

theorem execute_of_blind (alike : Alike known a b)
    (blind : instruction.operation.readsRegister = false) :
    Together (known ∪ instruction.written) (a.execute env instruction)
      (b.execute env instruction) := by
  have answered := fun value => Together.done .proceed (alike.write instruction value)
  have silent := fun (idle : instruction.operation.answers = false) =>
    (congrArg (known ∪ ·) (Instruction.written_of_silent idle)).trans (Set.union_empty known)
  obtain ⟨operation, ret, left, right⟩ := instruction
  obtain ⟨place, registersA, scores⟩ := a
  obtain ⟨placeB, registersB, scoresB⟩ := b
  obtain rfl : place = placeB := alike.pc
  obtain rfl : scores = scoresB := alike.scores
  -- Machines that differ in their registers alone give the same operands by definition.
  cases operation <;> simp only [Operation.readsRegister, Bool.true_eq_false] at blind
  case noop =>
    rw [silent rfl]
    exact .done .proceed alike
  case exit =>
    rw [silent rfl]
    exact .done .halted alike
  case isEqual | isNotEqual => exact .bind _ fun _ => answered _
  case setScore | addScore | subScore =>
    rw [silent rfl]
    exact .bind _ fun _ => .bind _ fun _ => .done .proceed (alike.change _ _)
  all_goals exact .bind _ fun _ => .bind _ fun _ => answered _

theorem execute (alike : Alike known a b)
    (reads : ∀ register, instruction.Reads register → register ∈ known) :
    Together (known ∪ instruction.written) (a.execute env instruction)
      (b.execute env instruction) := by
  cases blind : instruction.operation.readsRegister with
  | false => exact alike.execute_of_blind blind
  | true =>
    have written := alike.write instruction
    obtain ⟨operation, ret, left, right⟩ := instruction
    have operand := alike.scratchOperand_eq operation fun register same =>
      reads register ⟨blind, same⟩
    by_cases jumps : operation.isJump = true
    · obtain ⟨wanted, rfl⟩ := Operation.eq_jumpOn jumps
      have target : a.positionOperand (.jumpOn wanted) env.length right =
          b.positionOperand (.jumpOn wanted) env.length right := by
        unfold positionOperand invalid
        rw [alike.pc]
      rw [execute_jump, execute_jump, operand, target]
      refine .bind _ fun value => .bind _ fun target => ?_
      cases value == wanted with
      | true => exact .done .jumped ((written true).moveTo target)
      | false => exact .done .proceed (written false)
    · obtain rfl : operation = .negate := by
        cases operation <;> simp_all [Operation.isJump, Operation.readsRegister]
      change Together _ (a.scratchOperand .negate left >>= _) (b.scratchOperand .negate left >>= _)
      rw [operand]
      exact .bind _ fun value => .done .proceed (written _)

theorem turn (alike : Alike known a b) {code : Code} (fetched : code[a.pc]? = some instruction)
    (reads : ∀ register, instruction.Reads register → register ∈ known) {next : Machine}
    (went : a.turn env code = .next next) :
    ∃ other, b.turn env code = .next other ∧ Alike (known ∪ instruction.written) next other := by
  have together : Together (known ∪ instruction.written) (a.execute env instruction)
      (b.execute env instruction) := alike.execute reads
  unfold Machine.turn at went ⊢
  rw [← alike.pc, fetched]
  rw [fetched] at went
  dsimp only at went ⊢
  generalize a.execute env instruction = result at together went
  generalize b.execute env instruction = other at together
  cases together with
  | failed error => cases went
  | done flow alike =>
    cases flow <;> cases went
    · exact ⟨_, rfl, congrArg (· + 1) alike.pc, alike.scores, alike.registers⟩
    · exact ⟨_, rfl, alike⟩

end Alike

end Machine

namespace Code.Assigned

open Machine

variable {env : Environment} {code : Code} {known : Set Register} {index : Nat}
  {machine next : Machine} {instruction : Instruction}

theorem mono (assigned : code.Assigned index known) {more : Set Register} (fewer : known ⊆ more) :
    code.Assigned index more := by
  induction assigned generalizing more with
  | behind outside => exact .behind outside
  | here fetched reads _ _ ihOnward ihJumps =>
    exact .here fetched (fun register reading => fewer (reads register reading))
      (ihOnward (Set.union_subset_union_left _ fewer))
      fun target jumps leads => ihJumps target jumps leads (Set.union_subset_union_left _ fewer)

theorem reads (assigned : code.Assigned index known) (fetched : code[index]? = some instruction)
    {register : Register} (reading : instruction.Reads register) : register ∈ known := by
  cases assigned with
  | behind outside =>
    rw [fetched] at outside
    cases outside
  | here found reads =>
    obtain rfl := Option.some.inj (fetched.symm.trans found)
    exact reads register reading

theorem proceed (assigned : code.Assigned machine.pc known)
    (fetched : code[machine.pc]? = some instruction)
    (done : machine.execute env instruction = .ok (next, .proceed)) :
    code.Assigned (next.pc + 1) (known ∪ instruction.written) := by
  rw [(execute_moves done).pc_eq_of_proceed]
  cases assigned with
  | behind outside =>
    rw [fetched] at outside
    cases outside
  | here found _ onward =>
    obtain rfl := Option.some.inj (fetched.symm.trans found)
    exact onward

theorem jumped (assigned : code.Assigned machine.pc known)
    (fetched : code[machine.pc]? = some instruction)
    (done : machine.execute env instruction = .ok (next, .jumped)) :
    code.Assigned next.pc (known ∪ instruction.written) := by
  cases execute_moves done with
  | jump target jumps leads =>
    cases assigned with
    | behind outside =>
      rw [fetched] at outside
      cases outside
    | here found _ _ aims =>
      obtain rfl := Option.some.inj (fetched.symm.trans found)
      exact aims target jumps leads

theorem turn (assigned : code.Assigned machine.pc known)
    (fetched : code[machine.pc]? = some instruction)
    (went : machine.turn env code = .next next) :
    code.Assigned next.pc (known ∪ instruction.written) := by
  obtain ⟨other, after, found, ⟨executed, rfl⟩ | ⟨executed, rfl⟩⟩ := turn_eq_next went
  · obtain rfl := Option.some.inj (fetched.symm.trans found)
    exact assigned.proceed fetched executed
  · obtain rfl := Option.some.inj (fetched.symm.trans found)
    exact assigned.jumped fetched executed

theorem dispatches (assigned : code.Assigned machine.pc known) {budget : Nat}
    {before after : List (Nat × Instruction)} {dispatch : Nat × Instruction}
    (split : machine.dispatches env code budget = before ++ dispatch :: after)
    {register : Register} (reading : dispatch.2.Reads register) :
    register ∈ known ∨ ∃ earlier ∈ before, register ∈ earlier.2.written := by
  induction budget generalizing machine known before with
  | zero => simp [Machine.dispatches] at split
  | succ budget ih =>
    unfold Machine.dispatches at split
    cases fetched : code[machine.pc]? with
    | none => simp [fetched] at split
    | some instruction =>
      rw [fetched] at split
      dsimp only at split
      cases before with
      | nil =>
        obtain ⟨rfl, -⟩ := List.cons.inj split
        exact .inl (assigned.reads fetched reading)
      | cons first before =>
        obtain ⟨rfl, behind⟩ := List.cons.inj split
        cases went : machine.turn env code with
        | stop result => simp [went] at behind
        | next next =>
          rw [went] at behind
          rcases ih (assigned.turn fetched went) behind with (early | now) | later
          · exact .inl early
          · exact .inr ⟨_, List.mem_cons_self, now⟩
          · obtain ⟨earlier, member, wrote⟩ := later
            exact .inr ⟨earlier, List.mem_cons_of_mem _ member, wrote⟩

theorem contains {last : Machine} (assigned : code.Assigned machine.pc known)
    (alike : Alike known machine machine) (reaches : Reaches env code machine last)
    (fetched : code[last.pc]? = some instruction) {register : Register}
    (reading : instruction.Reads register) : last.registers.contains register = true := by
  induction reaches using Relation.ReflTransGen.head_induction_on generalizing known with
  | refl =>
    obtain ⟨value, holds, -⟩ := alike.registers register (assigned.reads fetched reading)
    rw [OrderedMap.contains, holds]
    rfl
  | @head machine next went _ ih =>
    cases here : code[machine.pc]? with
    | none =>
      rw [Machine.turn, here] at went
      cases went
    | some instruction =>
      obtain ⟨other, wentToo, alike⟩ := alike.turn here (fun register => assigned.reads here) went
      obtain rfl := Turn.next.inj (went.symm.trans wentToo)
      exact ih (assigned.turn here went) alike

/-- A run does not depend on what other registers hold at first: the observer sees the same, and
the run ends the same way if it comes to an end. -/
theorem runFrom (observe : σ → Event → σ) {a b : Machine} (assigned : code.Assigned a.pc known)
    (alike : Alike known a b) (budget count : Nat) (seen : σ) :
    Machine.runFrom observe env code budget count a seen =
        Machine.runFrom observe env code budget count b seen ∨
      ∃ last, (Machine.runFrom observe env code budget count a seen).1 = .unfinished last := by
  induction budget generalizing a b known count seen with
  | zero => exact .inr ⟨a, rfl⟩
  | succ budget ih =>
    unfold Machine.runFrom
    rw [← alike.pc]
    cases fetched : code[a.pc]? with
    | none => exact .inl (by rw [alike.scores])
    | some instruction =>
      have together : Together (known ∪ instruction.written) (a.execute env instruction)
          (b.execute env instruction) := alike.execute fun register => assigned.reads fetched
      generalize executed : a.execute env instruction = result at together
      generalize executedToo : b.execute env instruction = other at together
      dsimp only
      rw [executed, executedToo]
      cases together with
      | failed error => exact .inl rfl
      | done flow alike =>
        cases flow with
        | proceed =>
          have place := alike.pc
          dsimp only
          rw [← place]
          exact ih (assigned.proceed fetched executed) (alike.moveTo _) _ _
        | jumped => exact ih (assigned.jumped fetched executed) alike _ _
        | halted => exact .inl (by simp only [alike.pc, alike.scores])

end Code.Assigned

end ScoringRules
