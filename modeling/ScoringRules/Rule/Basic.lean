import ScoringRules.Source.Location

/-!
Rules as trees. A program is a list of statements; a rule runs its statements when its condition
holds. Conditions joined by `and` form a clause, clauses joined by `or` an expression, and an
expression in parentheses is a condition again.
-/

namespace ScoringRules

inductive Value where
  | var (name : String)
  | string (text : String)
  | int (value : Int64)
  | score (name : String)
  | regex (pattern : String) (location : Location)
  deriving DecidableEq, Repr

inductive Comparison where
  | equal | notEqual | greater | greaterOrEqual | less | lessOrEqual
  | contains | doesNotContain | matches_ | doesNotMatch
  deriving DecidableEq, Repr

inductive Condition where
  | scalar (left : Value) (comparison : Comparison) (right : Value)
  | list (left : Value) (negated : Bool) (members : List Value)
  | nested (clauses : List (List Condition))
  deriving Repr

abbrev Clause := List Condition

abbrev Expression := List Clause

inductive ScoreOp where
  | set | add | sub
  deriving DecidableEq, Repr

inductive Amount where
  | int (value : Int64)
  | score (name : String)
  deriving DecidableEq, Repr

inductive Statement where
  | rule (condition : Expression) (consequences : List Statement)
  | change (score : String) (op : ScoreOp) (amount : Amount)
  | exit
  deriving Repr

end ScoringRules
