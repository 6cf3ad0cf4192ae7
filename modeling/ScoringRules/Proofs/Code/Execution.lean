import ScoringRules.Proofs.Code.Block
import ScoringRules.Proofs.Machine.Forward

/-!
Execution of structured code, without looking up places: a block is passed through, left for the
end of the scope around it, halted in, or fails. Laid out in a code, a block does the same in the
dispatch loop.
-/

namespace ScoringRules

/-- How execution of a block ends. -/
inductive Passage where
  | through (machine : Machine)
  | left (machine : Machine)
  | halted (machine : Machine)
  | failed (error : RuntimeError)

def Passage.Stopped : Passage → Prop
  | through _ => False
  | left _ | halted _ | failed _ => True

namespace Block

/-- Executes a block at the machine's place; `exit` is where the scope around it ends. -/
def exec (env : Environment) (exit : Nat) : Block → Machine → Passage
  | empty, machine => .through machine
  | single instruction _, machine =>
    match machine.execute env instruction with
    | .error error => .failed error
    | .ok (next, .halted) => .halted next
    | .ok (next, _) => .through { next with pc := next.pc + 1 }
  | append first second, machine =>
    match first.exec env exit machine with
    | .through next => second.exec env exit next
    | passage => passage
  | scope body, machine =>
    match body.exec env (machine.pc + body.size) machine with
    | .left next => .through next
    | passage => passage
  | leave wanted ret tested, machine =>
    let taken := machine.readRegister tested == wanted
    let written := machine.writeRegister ret taken
    if taken then .left { written with pc := exit }
    else .through { written with pc := written.pc + 1 }

end Block

/-- The dispatch loop does from a machine on what a passage says. -/
def Passage.Realized (env : Environment) (code : Code) (machine : Machine) (behind exit : Nat) :
    Passage → Prop
  | through next => Machine.Reaches env code machine next ∧ next.pc = behind
  | left next => Machine.Reaches env code machine next ∧ next.pc = exit
  | halted next => ∃ last, Machine.Reaches env code machine last ∧
      last.turn env code = .stop (.finished next.scores)
  | failed error => ∃ last, Machine.Reaches env code machine last ∧
      last.turn env code = .stop (.failed error)

theorem Passage.Realized.of_reaches {env : Environment} {code : Code} {machine next : Machine}
    {behind exit : Nat} {passage : Passage} (reaches : Machine.Reaches env code machine next)
    (realized : passage.Realized env code next behind exit) :
    passage.Realized env code machine behind exit := by
  cases passage with
  | through last => exact ⟨reaches.trans realized.1, realized.2⟩
  | left last => exact ⟨reaches.trans realized.1, realized.2⟩
  | halted _ | failed _ =>
    obtain ⟨last, onward, stopped⟩ := realized
    exact ⟨last, reaches.trans onward, stopped⟩

def Passage.ending : Passage → Ending
  | through machine | left machine | halted machine => .finished machine.scores
  | failed error => .failed error

theorem Passage.Realized.ending_eq {env : Environment} {code : Code} {machine : Machine}
    {passage : Passage} (realized : passage.Realized env code machine code.size code.size)
    (forward : code.Forward) (inside : machine.pc ≤ code.size) {budget : Nat}
    (enough : code.size - machine.pc < budget) :
    Machine.ending env code budget machine = passage.ending := by
  have atEnd {last : Machine} (there : last.pc = code.size) :
      last.turn env code = .stop (.finished last.scores) := by
    rw [Machine.turn, there, Array.getElem?_eq_none (Nat.le_refl _)]
  cases passage with
  | through last | left last =>
    obtain ⟨reaches, there⟩ := realized
    exact Machine.ending_of_stopped forward inside enough reaches (atEnd there)
  | halted _ | failed _ =>
    obtain ⟨last, reaches, stopped⟩ := realized
    exact Machine.ending_of_stopped forward inside enough reaches stopped

namespace Block

variable {env : Environment} {code : Code}

theorem execute_leaving (machine : Machine) (wanted : Bool) (ret tested : Register) {target : Nat}
    (inside : target ≤ env.length) :
    machine.execute env (leaving wanted ret tested target) =
      .ok (if machine.readRegister tested == wanted then
          ({ machine.writeRegister ret (machine.readRegister tested == wanted) with pc := target },
            .jumped)
        else (machine.writeRegister ret (machine.readRegister tested == wanted), .proceed)) := by
  unfold leaving
  rw [Machine.execute_jump_eq_ite]
  exact if_pos inside

/-- Laid out at the machine's place, a block does what its execution says. -/
theorem realized_exec {block : Block} {before after : List Instruction} {exit : Nat}
    {machine : Machine}
    (placed : code.toList = before ++ (block.layout before.length (some exit) ++ after))
    (length : env.length = code.size) (inside : exit ≤ code.size)
    (here : machine.pc = before.length) :
    (block.exec env exit machine).Realized env code machine (machine.pc + block.size) exit := by
  -- A scope gives its body another exit, so the exit and the place have to vary.
  induction block generalizing before after exit machine with
  | empty => exact ⟨.refl, rfl⟩
  | single instruction straight =>
    have fetched : code[machine.pc]? = some instruction := by
      rw [← Array.getElem?_toList, placed, here]
      simp [layout]
    unfold exec
    rcases executed : machine.execute env instruction with error | ⟨next, flow⟩
    · exact ⟨machine, .refl, by rw [Machine.turn, fetched]; simp only [executed]⟩
    · cases flow with
      | proceed =>
        have stayed := (Machine.execute_moves executed).pc_eq_of_proceed
        have went : machine.turn env code = .next { next with pc := next.pc + 1 } := by
          rw [Machine.turn, fetched]
          simp only [executed]
        exact ⟨.single went, congrArg (· + 1) stayed⟩
      | jumped =>
        cases Machine.execute_moves executed with
        | jump target jumps =>
          rw [straight] at jumps
          cases jumps
      | halted => exact ⟨machine, .refl, by rw [Machine.turn, fetched]; simp only [executed]⟩
  | append first second ihFirst ihSecond =>
    rw [layout, List.append_assoc] at placed
    have passage := ihFirst placed inside here
    unfold exec
    cases ran : first.exec env exit machine with
    | through next =>
      rw [ran] at passage
      obtain ⟨reaches, there⟩ := passage
      have placedSecond : code.toList = (before ++ first.layout before.length (some exit)) ++
          (second.layout (before ++ first.layout before.length (some exit)).length (some exit) ++
            after) := by
        rw [placed, List.length_append, length_layout, List.append_assoc]
      have nextHere : next.pc = (before ++ first.layout before.length (some exit)).length := by
        rw [there, here, List.length_append, length_layout]
      have rest := ihSecond placedSecond inside nextHere
      rw [there, Nat.add_assoc] at rest
      exact rest.of_reaches reaches
    | left next | halted next | failed error =>
      rw [ran] at passage
      exact passage
  | scope body ih =>
    rw [layout] at placed
    have within : before.length + body.size ≤ code.size := by
      rw [← Array.length_toList, placed]
      simp only [List.length_append, length_layout]
      omega
    have passage := ih placed within here
    rw [← here] at passage
    unfold exec
    cases ran : body.exec env (machine.pc + body.size) machine with
    | through next | left next | halted next | failed error =>
      rw [ran] at passage
      exact passage
  | leave wanted ret tested =>
    have fetched : code[machine.pc]? = some (leaving wanted ret tested exit) := by
      rw [← Array.getElem?_toList, placed, here]
      simp [layout]
    have executed := execute_leaving machine wanted ret tested (length ▸ inside)
    unfold exec
    cases taken : machine.readRegister tested == wanted with
    | true =>
      have went : machine.turn env code =
          .next { machine.writeRegister ret true with pc := exit } := by
        rw [Machine.turn, fetched]
        simp only [executed, taken, if_true]
      exact ⟨.single went, rfl⟩
    | false =>
      have went : machine.turn env code = .next { machine.writeRegister ret false with
          pc := (machine.writeRegister ret false).pc + 1 } := by
        rw [Machine.turn, fetched]
        simp only [executed, taken, Bool.false_eq_true, if_false]
      exact ⟨.single went, congrArg (· + 1) (Machine.pc_writeRegister _ _ _)⟩

end Block

end ScoringRules
