import ScoringRules.Event
import ScoringRules.Machine.Step

/-!
Running code from its first instruction to its end, to an exit or to a failure. Code made by hand
may run forever, so a run has a budget of instructions; whoever watches it sees every event.
-/

namespace ScoringRules

inductive Ending where
  | finished (scores : Scores)
  | failed (error : RuntimeError)
  /-- The budget is used up. -/
  | unfinished (machine : Machine)
  deriving DecidableEq

namespace Machine

/-- Runs for at most `budget` instructions, `count` having been counted before. The observer
takes each event in turn. -/
def runFrom (observe : σ → Event → σ) (env : Environment) (code : Code) :
    (budget : Nat) → (count : Nat) → Machine → σ → Ending × σ
  | 0, _, machine, seen => (.unfinished machine, seen)
  | budget + 1, count, machine, seen =>
    match code[machine.pc]? with
    | none => (.finished machine.scores, observe seen (.executed count))
    | some instruction =>
      let seen := observe seen (.dispatched machine.pc instruction)
      match machine.execute env instruction with
      | .error error => (.failed error, seen)
      | .ok (next, .proceed) =>
        runFrom observe env code budget (count + 1) { next with pc := next.pc + 1 } seen
      | .ok (next, .jumped) => runFrom observe env code budget (count + 1) next seen
      | .ok (next, .halted) =>
        (.finished next.scores, observe (observe seen (.exited next.pc)) (.executed count))

end Machine

namespace Code

def observedRun (observe : σ → Event → σ) (seen : σ) (isMatch : String → String → Bool)
    (budget : Nat) (code : Code) (vars : Variables) : Ending × σ :=
  Machine.runFrom observe ⟨code.size, vars, isMatch⟩ code budget 0 .start seen

def run (isMatch : String → String → Bool) (budget : Nat) (code : Code) (vars : Variables) :
    Ending :=
  (observedRun (fun _ _ => ()) () isMatch budget code vars).1

def tracedRun (isMatch : String → String → Bool) (budget : Nat) (code : Code)
    (vars : Variables) : Ending × List Event :=
  let (ending, history) :=
    observedRun (fun history event => event :: history) [] isMatch budget code vars
  (ending, history.reverse)

end Code

end ScoringRules
