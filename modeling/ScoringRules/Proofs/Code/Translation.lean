import ScoringRules.CompileError
import ScoringRules.Code.Generator
import ScoringRules.Proofs.Code.Block
import ScoringRules.Proofs.Rule.Induction

/-!
Rules as structured code, without places and without state, and the first defect for which there
is no code. Registers in use and the register for the result are the only things that a node needs
to know about what is around it.
-/

namespace ScoringRules

namespace Value

def operand : Value → Operand
  | var name => .var name
  | string text => .string text
  | int value => .int value
  | score name => .score name
  | regex pattern _ => .regex pattern

def defect? (accepts : String → Bool) : Value → Option CompileError
  | regex pattern location =>
    if accepts pattern then none else some (.invalidRegex pattern location)
  | _ => none

end Value

/-- The first defect of a node: having no members comes before the defects of the members. -/
def firstDefect? (kind : NodeKind) (members : List (Option CompileError)) : Option CompileError :=
  if members.isEmpty then some (.emptyNode kind) else members.findSome? id

section Defects

variable (accepts : String → Bool)

mutual

def Condition.defect? : Condition → Option CompileError
  | .scalar left _ right => (left.defect? accepts).or (right.defect? accepts)
  | .list left _ members =>
    if members.isEmpty then some (.emptyNode .list)
    else (left.defect? accepts).or (members.findSome? (Value.defect? accepts))
  | .nested clauses => firstDefect? .expression (clauseDefects clauses)

def clauseDefects : List (List Condition) → List (Option CompileError)
  | [] => []
  | first :: rest => firstDefect? .clause (conditionDefects first) :: clauseDefects rest

def conditionDefects : List Condition → List (Option CompileError)
  | [] => []
  | first :: rest => first.defect? :: conditionDefects rest

end

def clauseDefect? (clause : Clause) : Option CompileError :=
  firstDefect? .clause (clause.map (Condition.defect? accepts))

def expressionDefect? (expression : Expression) : Option CompileError :=
  firstDefect? .expression (expression.map (clauseDefect? accepts))

theorem conditionDefects_eq_map (conditions : List Condition) :
    conditionDefects accepts conditions = conditions.map (Condition.defect? accepts) := by
  induction conditions with
  | nil => simp [conditionDefects]
  | cons first rest ih => simp [conditionDefects, ih]

theorem clauseDefects_eq_map (clauses : List (List Condition)) :
    clauseDefects accepts clauses = clauses.map (clauseDefect? accepts) := by
  induction clauses with
  | nil => simp [clauseDefects]
  | cons first rest ih => simp [clauseDefects, ih, clauseDefect?, conditionDefects_eq_map]

theorem Condition.defect?_nested (clauses : Expression) :
    (Condition.nested clauses).defect? accepts = expressionDefect? accepts clauses := by
  rw [Condition.defect?, clauseDefects_eq_map, expressionDefect?]

mutual

def Statement.defect? : Statement → Option CompileError
  | .rule condition consequences =>
    (expressionDefect? accepts condition).or (statementsDefect? consequences)
  | .change _ _ _ | .exit => none

def statementsDefect? : List Statement → Option CompileError
  | [] => none
  | first :: rest => first.defect?.or (statementsDefect? rest)

end

theorem statementsDefect?_eq_findSome? (statements : List Statement) :
    statementsDefect? accepts statements =
      statements.findSome? (Statement.defect? accepts) := by
  induction statements with
  | nil => rfl
  | cons first rest ih =>
    rw [statementsDefect?, List.findSome?_cons, ih]
    cases first.defect? accepts <;> rfl

end Defects

/-- Code for a part of a condition, which depends on the number of registers in use and on the
register that takes its truth value. -/
abbrev Part := (inUse : Nat) → (ret : Register) → Block

namespace Block

def comparison (cmp : Comparison) (ret : Register) (left right : Value) : Block :=
  single (.compare cmp.operation ret left.operand right.operand) (by cases cmp <;> rfl)

def negation (ret : Register) : Block :=
  single (.negate ret) rfl

def chain (wanted : Bool) (ret tested : Register) : List Block → Block
  | [] => empty
  | member :: rest => member ++ leave wanted ret tested ++ chain wanted ret tested rest

def members (inUse : Nat) (parts : List Part) : List Block :=
  parts.map fun part => part (inUse + 1) (inUse + 1)

/-- Stops behind the first part whose value is the wanted one, with `ret` true; if there is none,
`ret` is false at the end. -/
def search (wanted : Bool) (inUse : Nat) (ret : Register) (parts : List Part) : Block :=
  scope (chain wanted ret (inUse + 1) (members inUse parts))

def any : List Part → Part
  | [] => fun _ _ => empty
  | [part] => part
  | parts => fun inUse ret => search true inUse ret parts

def all : List Part → Part
  | [] => fun _ _ => empty
  | [part] => part
  | parts => fun inUse ret => search false inUse ret parts ++ negation ret

mutual

def ofCondition : Condition → Part
  | .scalar left cmp right => fun _ ret => comparison cmp ret left right
  | .list left negated members => fun inUse ret =>
    search true inUse ret (members.map fun value _ ret => comparison .equal ret left value) ++
      if negated then negation ret else empty
  | .nested clauses => any (ofClauses clauses)

def ofClauses : List (List Condition) → List Part
  | [] => []
  | first :: rest => all (ofConditions first) :: ofClauses rest

def ofConditions : List Condition → List Part
  | [] => []
  | first :: rest => ofCondition first :: ofConditions rest

end

def ofClause (clause : Clause) : Part :=
  all (clause.map ofCondition)

def ofExpression (expression : Expression) : Part :=
  any (expression.map ofClause)

theorem ofConditions_eq_map (conditions : List Condition) :
    ofConditions conditions = conditions.map ofCondition := by
  induction conditions with
  | nil => simp [ofConditions]
  | cons first rest ih => simp [ofConditions, ih]

theorem ofClauses_eq_map (clauses : List (List Condition)) :
    ofClauses clauses = clauses.map ofClause := by
  induction clauses with
  | nil => simp [ofClauses]
  | cons first rest ih => simp [ofClauses, ih, ofClause, ofConditions_eq_map]

theorem ofCondition_nested (clauses : Expression) :
    ofCondition (.nested clauses) = ofExpression clauses := by
  rw [ofCondition, ofClauses_eq_map, ofExpression]

theorem closed_any {parts : List Part}
    (closed : ∀ part ∈ parts, ∀ inUse ret, (part inUse ret).Closed) (inUse : Nat)
    (ret : Register) : (any parts inUse ret).Closed := by
  match parts with
  | [] => trivial
  | [part] => exact closed part (List.mem_singleton_self part) inUse ret
  | _ :: _ :: _ => trivial

theorem closed_all {parts : List Part}
    (closed : ∀ part ∈ parts, ∀ inUse ret, (part inUse ret).Closed) (inUse : Nat)
    (ret : Register) : (all parts inUse ret).Closed := by
  match parts with
  | [] => trivial
  | [part] => exact closed part (List.mem_singleton_self part) inUse ret
  | _ :: _ :: _ => exact ⟨trivial, trivial⟩

theorem closed_ofCondition (condition : Condition) (inUse : Nat) (ret : Register) :
    (ofCondition condition inUse ret).Closed := by
  induction condition using Condition.induction generalizing inUse ret with
  | scalar left cmp right => trivial
  | list left negated values =>
    rw [ofCondition]
    cases negated <;> exact ⟨trivial, trivial⟩
  | nested clauses ih =>
    rw [ofCondition_nested]
    apply closed_any
    intro part member
    obtain ⟨clause, inside, rfl⟩ := List.mem_map.mp member
    apply closed_all
    simpa using ih clause inside

theorem closed_ofClause (clause : Clause) (inUse : Nat) (ret : Register) :
    (ofClause clause inUse ret).Closed := by
  apply closed_all
  simpa using fun condition _ => closed_ofCondition condition

theorem closed_ofExpression (expression : Expression) (inUse : Nat) (ret : Register) :
    (ofExpression expression inUse ret).Closed := by
  rw [← ofCondition_nested]
  exact closed_ofCondition _ inUse ret

mutual

def ofStatement (inUse : Nat) : Statement → Block
  | .rule condition consequences =>
    ofExpression condition (inUse + 1) (inUse + 1) ++
      scope (leave false 0 (inUse + 1) ++ ofStatements (inUse + 1) consequences)
  | .change score op amount =>
    single (.change op.operation score amount.operand) (by cases op <;> rfl)
  | .exit => single (.plain .exit) rfl

def ofStatements (inUse : Nat) : List Statement → Block
  | [] => empty
  | first :: rest => ofStatement inUse first ++ ofStatements inUse rest

end

theorem closed_ofStatement (inUse : Nat) (statement : Statement) :
    (ofStatement inUse statement).Closed := by
  cases statement with
  | rule condition consequences => exact ⟨closed_ofExpression _ _ _, trivial⟩
  | change | exit => trivial

theorem closed_ofStatements (inUse : Nat) (statements : List Statement) :
    (ofStatements inUse statements).Closed := by
  induction statements with
  | nil => trivial
  | cons first rest ih => exact ⟨closed_ofStatement inUse first, ih⟩

/-- Every jump of a program lands on an instruction, if only on the last one. -/
def ofProgram (rules : List Statement) : Block :=
  ofStatements 0 rules ++ single (.plain .noop) rfl

theorem closed_ofProgram (rules : List Statement) : (ofProgram rules).Closed :=
  ⟨closed_ofStatements 0 rules, trivial⟩

theorem firstDefect?_map_eq_none_iff {kind : NodeKind} {items : List α}
    {defect : α → Option CompileError} : firstDefect? kind (items.map defect) = none ↔
      items ≠ [] ∧ ∀ item ∈ items, defect item = none := by
  cases items with
  | nil => simp [firstDefect?]
  | cons first rest => simp [firstDefect?]

theorem members_of_sound {kind : NodeKind} {items : List α} {defect : α → Option CompileError}
    (sound : firstDefect? kind (items.map defect) = none) :
    items ≠ [] ∧ ∀ item ∈ items, defect item = none :=
  firstDefect?_map_eq_none_iff.mp sound

theorem sound_of_statements {accepts : String → Bool} {statements : List Statement}
    (sound : statementsDefect? accepts statements = none) :
    ∀ statement ∈ statements, statement.defect? accepts = none := by
  induction statements with
  | nil => exact List.forall_mem_nil _
  | cons first rest ih =>
    rw [statementsDefect?, Option.or_eq_none_iff] at sound
    exact List.forall_mem_cons.mpr ⟨sound.1, ih sound.2⟩

end Block

end ScoringRules
