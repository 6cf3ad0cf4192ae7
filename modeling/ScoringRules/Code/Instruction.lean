import ScoringRules.Text.Quoted

/-!
Instructions of the scoring machine. A program is a flat sequence of them; each carries an
operation, a register for its result and up to two operands. Jump targets are absolute indices.
-/

namespace ScoringRules

inductive Operation where
  | noop
  | isEqual | isNotEqual | isGreater | isGreaterOrEqual | isLess | isLessOrEqual
  | contains | doesNotContain | matches_ | doesNotMatch
  | jumpIfFalse | jumpIfTrue
  | addScore | subScore | setScore
  | negate
  | exit
  deriving DecidableEq, Repr

namespace Operation

def name : Operation → String
  | noop => "nop"
  | isEqual => "eq"
  | isNotEqual => "ne"
  | isGreater => "gt"
  | isGreaterOrEqual => "ge"
  | isLess => "lt"
  | isLessOrEqual => "le"
  | contains => "contains"
  | doesNotContain => "ncontains"
  | matches_ => "match"
  | doesNotMatch => "nmatch"
  | jumpIfFalse => "jf"
  | jumpIfTrue => "jt"
  | addScore => "add"
  | subScore => "sub"
  | setScore => "set"
  | negate => "not"
  | exit => "exit"

end Operation

/-- A scratch register; register 0 takes no value. -/
abbrev Register := Nat

def Register.text (register : Register) : String :=
  "$" ++ toString register

inductive Operand where
  | int (value : Int64)
  | string (text : String)
  | regex (pattern : String)
  | scratch (register : Register)
  | score (name : String)
  | position (index : Nat)
  | var (name : String)
  deriving DecidableEq, Repr

inductive OperandKind where
  | int | string | regex | scratch | score | position | var
  deriving DecidableEq, Repr

namespace OperandKind

def name : OperandKind → String
  | int => "int"
  | string => "string"
  | regex => "regex"
  | scratch => "scratch"
  | score => "score"
  | position => "position"
  | var => "var"

end OperandKind

namespace Operand

def kind : Operand → OperandKind
  | int _ => .int
  | string _ => .string
  | regex _ => .regex
  | scratch _ => .scratch
  | score _ => .score
  | position _ => .position
  | var _ => .var

def text : Operand → String
  | int value => toString value.toInt
  | string text => quoted text
  | regex pattern => "/" ++ pattern ++ "/"
  | scratch register => Register.text register
  | score name => "score(" ++ name ++ ")"
  | position index => "->" ++ toString index
  | var name => "var(" ++ name ++ ")"

end Operand

structure Instruction where
  operation : Operation
  ret : Register
  left : Option Operand
  right : Option Operand
  deriving DecidableEq, Repr

namespace Instruction

def plain (operation : Operation) : Instruction :=
  ⟨operation, 0, none, none⟩

def compare (operation : Operation) (ret : Register) (left right : Operand) : Instruction :=
  ⟨operation, ret, some left, some right⟩

def change (operation : Operation) (score : String) (amount : Operand) : Instruction :=
  ⟨operation, 0, some (.score score), some amount⟩

/-- A jump on the truth value of a register; `ret` takes whether it is taken. -/
def jump (operation : Operation) (ret tested : Register) (target : Nat) : Instruction :=
  ⟨operation, ret, some (.scratch tested), some (.position target)⟩

def negate (register : Register) : Instruction :=
  ⟨.negate, register, some (.scratch register), none⟩

/-- The cells of a listing: operation, result and operands, empty where absent. -/
structure Columns where
  operation : String
  ret : String
  left : String
  right : String
  deriving DecidableEq, Repr

def columns (instruction : Instruction) : Columns where
  operation := instruction.operation.name
  ret := if instruction.ret = 0 then "" else Register.text instruction.ret
  left := (instruction.left.map Operand.text).getD ""
  right := (instruction.right.map Operand.text).getD ""

def text (instruction : Instruction) : String :=
  instruction.operation.name ++
    (if instruction.ret = 0 then "" else " " ++ Register.text instruction.ret ++ " <-") ++
    (instruction.left.map fun operand => " " ++ operand.text).getD "" ++
    (instruction.right.map fun operand => " " ++ operand.text).getD ""

end Instruction

abbrev Code := Array Instruction

end ScoringRules
