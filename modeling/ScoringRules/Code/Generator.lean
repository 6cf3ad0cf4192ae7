import ScoringRules.Code.Buffer
import ScoringRules.Event
import ScoringRules.Rule.Basic

/-!
Generating code from rules, in one pass. Conditions become chains of jumps whose targets are
filled in when the end of the chain is known. A register is taken while it holds a truth value that
is still wanted, the lowest free one first.
-/

namespace ScoringRules

structure GeneratorState where
  buffer : CodeBuffer
  /-- The registers that are taken, the latest first. -/
  used : List Register
  /-- The highest register taken so far. -/
  peak : Nat
  /-- What happened so far, the latest first. -/
  history : List Event
  deriving DecidableEq, Repr

/-- A generation step can fail, and what it did before stays. -/
abbrev Generator := ExceptT CompileError (StateM GeneratorState)

namespace Generator

def fail (error : CompileError) : Generator α :=
  throw error

def note (event : Event) : Generator Unit :=
  modify fun s => { s with history := event :: s.history }

def head : Generator Nat := do
  return (← get).buffer.head

def append (instruction : Instruction) : Generator Unit :=
  modify fun s => { s with buffer := s.buffer.append instruction }

def reserve : Generator Nat := do
  let index ← head
  modify fun s => { s with buffer := s.buffer.reserve }
  return index

def patch (index : Nat) (instruction : Instruction) : Generator Unit := do
  note (.patched index instruction)
  modify fun s => { s with buffer := s.buffer.replace index instruction }

/-- The lowest register that is not taken; register 0 never is, nor is it given out. Of as many
registers as are taken, and one more, there is a free one. -/
def lowestFree (used : List Register) : Register :=
  ((List.range' 1 used.length).find? fun register => !used.contains register).getD
    (used.length + 1)

def allocate : Generator Register := do
  let register := lowestFree (← get).used
  modify fun s => { s with used := register :: s.used, peak := max s.peak register }
  return register

def release (register : Register) : Generator Unit :=
  modify fun s => { s with used := s.used.erase register }

def operand (accepts : String → Bool) : Value → Generator Operand
  | .var name => return .var name
  | .string text => return .string text
  | .int value => return .int value
  | .score name => return .score name
  | .regex pattern location =>
    if accepts pattern then return .regex pattern else fail (.invalidRegex pattern location)

end Generator

def Comparison.operation : Comparison → Operation
  | equal => .isEqual
  | notEqual => .isNotEqual
  | greater => .isGreater
  | greaterOrEqual => .isGreaterOrEqual
  | less => .isLess
  | lessOrEqual => .isLessOrEqual
  | contains => .contains
  | doesNotContain => .doesNotContain
  | matches_ => .matches_
  | doesNotMatch => .doesNotMatch

def ScoreOp.operation : ScoreOp → Operation
  | set => .setScore
  | add => .addScore
  | sub => .subScore

def Amount.operand : Amount → Operand
  | int value => .int value
  | score name => .score name

namespace Generator

structure Link where
  slot : Nat
  register : Register
  deriving DecidableEq, Repr

/-- Points the slots of a chain behind it; `ret` takes whether the jump is taken. -/
def patchAll (operation : Operation) (ret : Register) (links : List Link) : Generator Unit := do
  let target ← head
  for link in links do
    patch link.slot (.jump operation ret link.register target)

def link (body : Register → Generator Unit) : Generator Link := do
  let register ← allocate
  body register
  let slot ← reserve
  release register
  return ⟨slot, register⟩

def listLinks (accepts : String → Bool) (left : Operand) : List Value → Generator (List Link)
  | [] => return []
  | value :: rest => do
    let right ← operand accepts value
    let first ← link fun register => append (.compare .isEqual register left right)
    let links ← listLinks accepts left rest
    return first :: links

mutual

def condition (accepts : String → Bool) (ret : Register) : Condition → Generator Unit
  | .scalar left comparison right => do
    let left ← operand accepts left
    let right ← operand accepts right
    append (.compare comparison.operation ret left right)
  | .list left negated members => do
    if members.isEmpty then
      fail (.emptyNode .list)
    let left ← operand accepts left
    let links ← listLinks accepts left members
    patchAll .jumpIfTrue ret links
    if negated then
      append (.negate ret)
  | .nested clauses => expression accepts ret clauses

/-- The first clause that holds jumps past the rest. -/
def expression (accepts : String → Bool) (ret : Register) : List (List Condition) → Generator Unit
  | [] => fail (.emptyNode .expression)
  | [single] => clause accepts ret single
  | first :: second :: rest => do
    let firstLink ← link fun register => clause accepts register first
    let secondLink ← link fun register => clause accepts register second
    let links ← clauseLinks accepts rest
    patchAll .jumpIfTrue ret (firstLink :: secondLink :: links)

def clauseLinks (accepts : String → Bool) : List (List Condition) → Generator (List Link)
  | [] => return []
  | first :: rest => do
    let firstLink ← link fun register => clause accepts register first
    let links ← clauseLinks accepts rest
    return firstLink :: links

/-- The first condition that fails jumps to the negation at the end with `ret` true; if none
fails, the last jump leaves `ret` false. -/
def clause (accepts : String → Bool) (ret : Register) : List Condition → Generator Unit
  | [] => fail (.emptyNode .clause)
  | [single] => condition accepts ret single
  | first :: second :: rest => do
    let firstLink ← link fun register => condition accepts register first
    let secondLink ← link fun register => condition accepts register second
    let links ← conditionLinks accepts rest
    patchAll .jumpIfFalse ret (firstLink :: secondLink :: links)
    append (.negate ret)

def conditionLinks (accepts : String → Bool) : List Condition → Generator (List Link)
  | [] => return []
  | first :: rest => do
    let firstLink ← link fun register => condition accepts register first
    let links ← conditionLinks accepts rest
    return firstLink :: links

end

mutual

def statement (accepts : String → Bool) : Statement → Generator Unit
  | .rule condition consequences => do
    let register ← allocate
    expression accepts register condition
    let slot ← reserve
    statements accepts consequences
    patch slot (.jump .jumpIfFalse 0 register (← head))
    release register
  | .change score op amount =>
    append (.change op.operation score amount.operand)
  | .exit => append (.plain .exit)

def statements (accepts : String → Bool) : List Statement → Generator Unit
  | [] => return
  | first :: rest => do
    statement accepts first
    statements accepts rest

end

/-- The code of a program; every jump lands on an instruction, if only the last one. -/
def program (accepts : String → Bool) (rules : List Statement) : Generator Code := do
  statements accepts rules
  append (.plain .noop)
  let final ← get
  note (.generated final.buffer.head final.peak)
  final.buffer.finish

end Generator

namespace Code

def generate (accepts : String → Bool) (rules : List Statement) :
    Except CompileError Code × List Event :=
  let (result, final) := (Generator.program accepts rules).run ⟨.empty, [], 0, []⟩
  (result, final.history.reverse)

end Code

end ScoringRules
