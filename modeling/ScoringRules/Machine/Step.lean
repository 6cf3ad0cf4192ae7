import ScoringRules.Machine.Basic

/-!
Execution of one instruction. Operands are checked by their kinds before anything is written, so
an instruction that fails leaves the machine as it was.
-/

namespace ScoringRules

inductive Role where
  | comparable | number | text | pattern | register | target | score
  deriving DecidableEq, Repr

namespace Role

def describe : Role → String
  | comparable => "int, score, string or var"
  | number => "int or score"
  | text => "string or var"
  | pattern => "regex"
  | register => "scratch"
  | target => "position"
  | score => "score"

end Role

inductive RuntimeError where
  /-- An operand is absent (found `none`) or of a kind that the operation cannot use. -/
  | invalidOperand (operation : Operation) (expected : Role) (found : Option OperandKind)
      (index : Nat)
  | jumpOutOfRange (target length index : Nat)
  deriving DecidableEq, Repr

namespace RuntimeError

def message : RuntimeError → String
  | invalidOperand operation expected found index =>
    "Runtime error at instruction " ++ toString index ++ ": '" ++ operation.name ++
      "' expected " ++ expected.describe ++ " operand but found " ++
      (found.map OperandKind.name).getD "none"
  | jumpOutOfRange target length index =>
    "Runtime error at instruction " ++ toString index ++ ": jump target " ++ toString target ++
      " is outside a program of " ++ toString length ++ " instructions"

end RuntimeError

inductive Flow where
  | proceed | jumped | halted
  deriving DecidableEq, Repr

/-- What an instruction sees apart from the machine: the length of the code, the variables, and
which texts match a pattern. -/
structure Environment where
  length : Nat
  vars : Variables
  isMatch : (pattern text : String) → Bool

namespace Machine

section Operands

variable (machine : Machine) (operation : Operation)

def invalid (expected : Role) (found : Option Operand) : Except RuntimeError α :=
  .error (.invalidOperand operation expected (found.map Operand.kind) machine.pc)

def intOperand : Option Operand → Except RuntimeError Int64
  | some (.int value) => .ok value
  | some (.score name) => .ok (machine.readScore name)
  | found => machine.invalid operation .number found

def stringOperand (vars : Variables) : Option Operand → Except RuntimeError String
  | some (.string text) => .ok text
  | some (.var name) => .ok (vars.read name)
  | found => machine.invalid operation .text found

def regexOperand : Option Operand → Except RuntimeError String
  | some (.regex pattern) => .ok pattern
  | found => machine.invalid operation .pattern found

def scratchOperand : Option Operand → Except RuntimeError Bool
  | some (.scratch register) => .ok (machine.readRegister register)
  | found => machine.invalid operation .register found

/-- A jump may go right behind the code, which ends the run. -/
def positionOperand (length : Nat) : Option Operand → Except RuntimeError Nat
  | some (.position target) =>
    if target ≤ length then .ok target else .error (.jumpOutOfRange target length machine.pc)
  | found => machine.invalid operation .target found

def scoreOperand : Option Operand → Except RuntimeError String
  | some (.score name) => .ok name
  | found => machine.invalid operation .score found

end Operands

/-- The kind of the left operand decides whether numbers or texts are compared. -/
def areEqual (machine : Machine) (operation : Operation) (vars : Variables)
    (left right : Option Operand) : Except RuntimeError Bool :=
  match left with
  | some (.int _) | some (.score _) => do
    let a ← machine.intOperand operation left
    let b ← machine.intOperand operation right
    return a = b
  | some (.string _) | some (.var _) => do
    let a ← machine.stringOperand operation vars left
    let b ← machine.stringOperand operation vars right
    return a = b
  | found => machine.invalid operation .comparable found

def occursIn (needle : List Char) : List Char → Bool
  | [] => needle.isEmpty
  | text@(_ :: rest) => needle.isPrefixOf text || occursIn needle rest

/-- Executes an instruction at the machine's place; only a jump moves it. -/
def execute (env : Environment) (machine : Machine) (instruction : Instruction) :
    Except RuntimeError (Machine × Flow) :=
  let operation := instruction.operation
  let left := instruction.left
  let right := instruction.right
  let answer (value : Bool) : Machine × Flow :=
    (machine.writeRegister instruction.ret value, .proceed)
  let compareInts (test : Int64 → Int64 → Bool) : Except RuntimeError (Machine × Flow) := do
    let a ← machine.intOperand operation left
    let b ← machine.intOperand operation right
    return answer (test a b)
  let compareTexts (test : String → String → Bool) : Except RuntimeError (Machine × Flow) := do
    let text ← machine.stringOperand operation env.vars left
    let part ← machine.stringOperand operation env.vars right
    return answer (test text part)
  let matchText (wanted : Bool) : Except RuntimeError (Machine × Flow) := do
    let text ← machine.stringOperand operation env.vars left
    let pattern ← machine.regexOperand operation right
    return answer (env.isMatch pattern text == wanted)
  let jumpOn (wanted : Bool) : Except RuntimeError (Machine × Flow) := do
    let value ← machine.scratchOperand operation left
    let target ← machine.positionOperand operation env.length right
    let taken := value == wanted
    let written := machine.writeRegister instruction.ret taken
    return if taken then ({ written with pc := target }, .jumped) else (written, .proceed)
  let changeScore (change : Int64 → Int64 → Int64) : Except RuntimeError (Machine × Flow) := do
    let name ← machine.scoreOperand operation left
    let value ← machine.intOperand operation right
    return (machine.writeScore name (change (machine.readScore name) value), .proceed)
  match operation with
  | .noop => .ok (machine, .proceed)
  | .exit => .ok (machine, .halted)
  | .isEqual => do return answer (← machine.areEqual operation env.vars left right)
  | .isNotEqual => do return answer !(← machine.areEqual operation env.vars left right)
  | .isGreater => compareInts fun a b => b < a
  | .isGreaterOrEqual => compareInts fun a b => b ≤ a
  | .isLess => compareInts fun a b => a < b
  | .isLessOrEqual => compareInts fun a b => a ≤ b
  | .contains => compareTexts fun text part => occursIn part.toList text.toList
  | .doesNotContain => compareTexts fun text part => !occursIn part.toList text.toList
  | .matches_ => matchText true
  | .doesNotMatch => matchText false
  | .jumpIfTrue => jumpOn true
  | .jumpIfFalse => jumpOn false
  | .negate => do return answer !(← machine.scratchOperand operation left)
  | .setScore => changeScore fun _ value => value
  | .addScore => changeScore fun old value => old + value
  | .subScore => changeScore fun old value => old - value

end Machine

end ScoringRules
