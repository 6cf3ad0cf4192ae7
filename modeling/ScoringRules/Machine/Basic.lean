import ScoringRules.Code.Instruction
import ScoringRules.Data.OrderedMap

/-!
The state of the scoring machine: an index into the code, truth values in registers, and named
scores. Whatever has not been written reads as false, zero or the empty string.
-/

namespace ScoringRules

abbrev Scores := OrderedMap String Int64

abbrev Variables := OrderedMap String String

structure Machine where
  pc : Nat
  registers : OrderedMap Register Bool
  scores : Scores
  deriving DecidableEq

namespace Machine

def start : Machine := ⟨0, ∅, ∅⟩

def readRegister (machine : Machine) (register : Register) : Bool :=
  machine.registers.getD register false

/-- Writes to register 0 are dropped. -/
def writeRegister (machine : Machine) (register : Register) (value : Bool) : Machine :=
  if register = 0 then machine
  else { machine with registers := machine.registers.insert register value }

/-- Reading does not create a score. -/
def readScore (machine : Machine) (name : String) : Int64 :=
  machine.scores.getD name 0

def writeScore (machine : Machine) (name : String) (value : Int64) : Machine :=
  { machine with scores := machine.scores.insert name value }

end Machine

def Variables.read (vars : Variables) (name : String) : String :=
  OrderedMap.getD vars name ""

end ScoringRules
