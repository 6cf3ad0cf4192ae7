import ScoringRules.Code.Instruction

/-!
Messages that tell how compilation and execution went.
-/

namespace ScoringRules

inductive Level where
  | debug | trace
  deriving DecidableEq, Repr

inductive Event where
  | tokenized (tokens : Nat)
  | parsed (statements : Nat)
  | patched (index : Nat) (instruction : Instruction)
  | generated (instructions registers : Nat)
  | dispatched (index : Nat) (instruction : Instruction)
  | exited (index : Nat)
  | executed (count : Nat)
  | loaded (inputs : Nat) (lowercase : Bool)
  deriving DecidableEq, Repr

namespace Event

def level : Event → Level
  | dispatched _ _ => .trace
  | _ => .debug

def fourDigits (n : Nat) : String :=
  let digits := toString n
  String.ofList (List.replicate (4 - digits.length) '0') ++ digits

def text : Event → String
  | tokenized tokens => "lexer produced " ++ toString tokens ++ " tokens"
  | parsed statements => "parsed " ++ toString statements ++ " top-level statements"
  | patched index instruction => "backpatch " ++ toString index ++ ": " ++ instruction.text
  | generated instructions registers =>
    "generated " ++ toString instructions ++ " instructions using " ++ toString registers ++
      " scratch registers"
  | dispatched index instruction => fourDigits index ++ ": " ++ instruction.text
  | exited index => "exit at instruction " ++ toString index
  | executed count => "executed " ++ toString count ++ " instructions"
  | loaded inputs lowercase =>
    "loaded " ++ toString inputs ++ " inputs (lowercase: " ++
      (if lowercase then "true" else "false") ++ ")"

end Event

end ScoringRules
