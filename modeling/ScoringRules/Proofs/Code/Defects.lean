import ScoringRules.Proofs.Code.Generation
import ScoringRules.Proofs.Data.General

/-!
The nodes of a program in the order in which code is generated for them, and what can be wrong with
a single node. Generation fails with the first fault in that order, and with nothing else.
-/

namespace ScoringRules

inductive Node where
  | statement (tree : Statement)
  | expression (tree : Expression)
  | clause (tree : Clause)
  | condition (tree : Condition)
  | value (tree : Value)

namespace Node

def children : Node → List Node
  | statement (.rule tree consequences) => expression tree :: consequences.map statement
  | statement (.change _ _ _) | statement .exit => []
  | expression clauses => clauses.map clause
  | clause conditions => conditions.map condition
  | condition (.scalar left _ right) => [value left, value right]
  | condition (.list left _ members) => value left :: members.map value
  | condition (.nested clauses) => [expression clauses]
  | value _ => []

theorem sizeOf_children {node child : Node} (below : child ∈ node.children) :
    sizeOf child < sizeOf node := by
  unfold children at below
  split at below
  case h_1 tree consequences =>
    rcases List.mem_cons.mp below with rfl | below
    · simp; omega
    · obtain ⟨tree, member, rfl⟩ := List.mem_map.mp below
      have smaller := List.sizeOf_lt_of_mem member
      simp; omega
  case h_4 clauses | h_5 conditions =>
    obtain ⟨tree, member, rfl⟩ := List.mem_map.mp below
    have smaller := List.sizeOf_lt_of_mem member
    simp; omega
  case h_6 left cmp right =>
    simp only [List.mem_cons, List.not_mem_nil, or_false] at below
    rcases below with rfl | rfl
    · simp only [condition.sizeOf_spec, Condition.scalar.sizeOf_spec, value.sizeOf_spec]
      omega
    · simp only [condition.sizeOf_spec, Condition.scalar.sizeOf_spec, value.sizeOf_spec]
      omega
  case h_7 left negated members =>
    rcases List.mem_cons.mp below with rfl | below
    · simp; omega
    · obtain ⟨tree, member, rfl⟩ := List.mem_map.mp below
      have smaller := List.sizeOf_lt_of_mem member
      simp; omega
  case h_8 clauses =>
    obtain rfl := List.mem_singleton.mp below
    simp
  all_goals cases below

/-- A node and all nodes below it: each stands in front of its children, and a child with all that
is below it in front of the next child. -/
def walk (node : Node) : List Node :=
  node :: node.children.attach.flatMap fun child => child.1.walk
termination_by sizeOf node
decreasing_by exact sizeOf_children child.2

theorem walk_eq (node : Node) : node.walk = node :: node.children.flatMap walk := by
  rw [walk]
  simp

/-- What is wrong with a node itself: it has no members where it needs some, or it is a pattern that
is no regular expression. -/
inductive Faulty (accepts : String → Bool) : Node → CompileError → Prop where
  | expression : Faulty accepts (expression []) (.emptyNode .expression)
  | clause : Faulty accepts (clause []) (.emptyNode .clause)
  | list (left : Value) (negated : Bool) :
      Faulty accepts (condition (.list left negated [])) (.emptyNode .list)
  | regex {pattern : String} (location : Location) (refused : accepts pattern = false) :
      Faulty accepts (value (.regex pattern location)) (.invalidRegex pattern location)

variable {accepts : String → Bool}

variable (accepts) in
def fault? : Node → Option CompileError
  | expression [] => some (.emptyNode .expression)
  | clause [] => some (.emptyNode .clause)
  | condition (.list _ _ []) => some (.emptyNode .list)
  | value tree => tree.defect? accepts
  | _ => none

theorem fault?_eq_some_iff {node : Node} {error : CompileError} :
    node.fault? accepts = some error ↔ Faulty accepts node error := by
  constructor
  · intro fault
    unfold fault? at fault
    split at fault
    · cases fault; exact .expression
    · cases fault; exact .clause
    · cases fault; exact .list _ _
    · rename_i tree
      unfold Value.defect? at fault
      split at fault
      · split at fault
        · cases fault
        · rename_i refused
          cases fault
          exact .regex _ (eq_false_of_ne_true refused)
      · cases fault
    · cases fault
  · rintro (_ | _ | _ | ⟨location, refused⟩)
    · rfl
    · rfl
    · rfl
    · simp [fault?, Value.defect?, refused]

theorem fault?_eq_none_iff {node : Node} :
    node.fault? accepts = none ↔ ∀ error, ¬ Faulty accepts node error := by
  simp only [← fault?_eq_some_iff, Option.eq_none_iff_forall_ne_some]

variable (accepts) in
def firstFault? (node : Node) : Option CompileError :=
  node.walk.findSome? (fault? accepts)

theorem firstFault?_eq (node : Node) : node.firstFault? accepts =
    (node.fault? accepts).or (node.children.findSome? (firstFault? accepts)) := by
  rw [firstFault?, walk_eq, findSome?_cons_eq_or, findSome?_flatMap]
  rfl

@[simp] theorem firstFault?_value (tree : Value) :
    (value tree).firstFault? accepts = tree.defect? accepts := by
  rw [firstFault?_eq]
  exact Option.or_none

theorem findSome?_map_of_each {node : α → Node} {defect : α → Option CompileError}
    {members : List α}
    (each : ∀ member ∈ members, (node member).firstFault? accepts = defect member) :
    (members.map node).findSome? (firstFault? accepts) = members.findSome? defect := by
  induction members with
  | nil => rfl
  | cons first rest ih =>
    obtain ⟨eachFirst, eachRest⟩ := List.forall_mem_cons.mp each
    rw [List.map_cons, findSome?_cons_eq_or, findSome?_cons_eq_or, eachFirst,
      ih eachRest]

theorem firstFault?_of_members {whole : Node} {kind : NodeKind} {members : List α} {node : α → Node}
    {defect : α → Option CompileError} (below : whole.children = members.map node)
    (own : whole.fault? accepts = if members.isEmpty then some (.emptyNode kind) else none)
    (each : ∀ member ∈ members, (node member).firstFault? accepts = defect member) :
    whole.firstFault? accepts = firstDefect? kind (members.map defect) := by
  rw [firstFault?_eq, below, own, findSome?_map_of_each each]
  cases members with
  | nil => rfl
  | cons first rest => rw [Generator.firstDefect?_map_cons]; rfl

theorem firstFault?_clause {conditions : Clause}
    (each : ∀ member ∈ conditions,
      (condition member).firstFault? accepts = member.defect? accepts) :
    (clause conditions).firstFault? accepts = clauseDefect? accepts conditions :=
  firstFault?_of_members rfl (by cases conditions <;> rfl) each

theorem firstFault?_expression_of_each {clauses : Expression}
    (each : ∀ member ∈ clauses,
      (clause member).firstFault? accepts = clauseDefect? accepts member) :
    (expression clauses).firstFault? accepts = expressionDefect? accepts clauses :=
  firstFault?_of_members rfl (by cases clauses <;> rfl) each

theorem firstFault?_condition (tree : Condition) :
    (condition tree).firstFault? accepts = tree.defect? accepts := by
  induction tree using Condition.induction with
  | scalar left cmp right =>
    rw [firstFault?_eq, Condition.defect?]
    simp [fault?, children, findSome?_cons_eq_or]
  | list left negated members =>
    rw [firstFault?_eq, Condition.defect?, children, findSome?_cons_eq_or,
      findSome?_map_of_each fun member _ => firstFault?_value member, firstFault?_value]
    cases members <;> rfl
  | nested clauses ih =>
    rw [firstFault?_eq, Condition.defect?_nested,
      ← firstFault?_expression_of_each fun member inside => firstFault?_clause (ih member inside)]
    exact findSome?_cons_eq_or _ _ [] |>.trans Option.or_none

theorem firstFault?_expression (tree : Expression) :
    (expression tree).firstFault? accepts = expressionDefect? accepts tree :=
  firstFault?_expression_of_each fun _ _ => firstFault?_clause fun member _ =>
    firstFault?_condition member

theorem firstFault?_statement (tree : Statement) :
    (statement tree).firstFault? accepts = tree.defect? accepts := by
  induction tree using Statement.induction with
  | rule tree consequences ih =>
    rw [firstFault?_eq, Statement.defect?, children, findSome?_cons_eq_or,
      findSome?_map_of_each ih, firstFault?_expression, statementsDefect?_eq_findSome?]
    rfl
  | change | exit => exact firstFault?_eq _

def all (rules : List Statement) : List Node :=
  rules.flatMap fun rule => (statement rule).walk

theorem findSome?_all (rules : List Statement) :
    (all rules).findSome? (fault? accepts) = statementsDefect? accepts rules := by
  rw [all, findSome?_flatMap, statementsDefect?_eq_findSome?]
  exact congrArg (rules.findSome? ·) (funext fun rule => firstFault?_statement rule)

theorem findSome?_eq_none_iff {nodes : List Node} : nodes.findSome? (fault? accepts) = none ↔
    expression [] ∉ nodes ∧ clause [] ∉ nodes ∧
      (∀ left negated, condition (.list left negated []) ∉ nodes) ∧
      ∀ pattern location, value (.regex pattern location) ∈ nodes → accepts pattern = true := by
  simp only [List.findSome?_eq_none_iff, fault?_eq_none_iff]
  constructor
  · intro sound
    refine ⟨fun inside => sound _ inside _ .expression, fun inside => sound _ inside _ .clause,
      fun left negated inside => sound _ inside _ (.list left negated), ?_⟩
    intro pattern location inside
    cases refused : accepts pattern with
    | true => rfl
    | false => exact (sound _ inside _ (.regex location refused)).elim
  · rintro ⟨expressions, clauses, lists, patterns⟩ node inside error faulty
    cases faulty with
    | expression => exact expressions inside
    | clause => exact clauses inside
    | list left negated => exact lists left negated inside
    | regex location refused => exact Bool.false_ne_true (refused.symm.trans (patterns _ _ inside))

end Node

namespace Code

/-- Code is generated if and only if no expression, clause or list of the program is empty and each
pattern is a regular expression. Otherwise the error is for the first fault in the order of the
nodes. -/
theorem generate_fails_first (accepts : String → Bool) (rules : List Statement) :
    ((∃ code, (generate accepts rules).1 = .ok code) ↔
      .expression [] ∉ Node.all rules ∧ .clause [] ∉ Node.all rules ∧
        (∀ left negated, .condition (.list left negated []) ∉ Node.all rules) ∧
        ∀ pattern location, .value (.regex pattern location) ∈ Node.all rules →
          accepts pattern = true) ∧
    (∀ error, (generate accepts rules).1 = .error error ↔
      ∃ before node behind, Node.all rules = before ++ node :: behind ∧
        Node.Faulty accepts node error ∧
        ∀ earlier ∈ before, ∀ other, ¬ Node.Faulty accepts earlier other) ∧
    ∀ index, (generate accepts rules).1 ≠ .error (.unpatched index) := by
  have fails (error : CompileError) : (generate accepts rules).1 = .error error ↔
      (Node.all rules).findSome? (Node.fault? accepts) = some error := by
    rw [Node.findSome?_all]
    cases found : statementsDefect? accepts rules with
    | some other => simp [generate_of_defect found]
    | none => simp [generate_of_sound found]
  refine ⟨?_, fun error => ?_, fun index => ?_⟩
  · rw [← Node.findSome?_eq_none_iff, Node.findSome?_all]
    cases found : statementsDefect? accepts rules with
    | some other => simp [generate_of_defect found]
    | none => simp [generate_of_sound found]
  · rw [fails, List.findSome?_eq_some_iff]
    simp only [Node.fault?_eq_some_iff, Node.fault?_eq_none_iff]
  · rw [Ne, fails]
    intro found
    obtain ⟨node, -, fault⟩ := List.exists_of_findSome?_eq_some found
    cases Node.fault?_eq_some_iff.mp fault

theorem generate_fails_first_beforeEmpty :
    let list : Condition := .list (.int 1) false [.regex "a" ⟨12, 1, 13⟩, .regex "(" ⟨17, 1, 18⟩]
    (generate (fun pattern => pattern == "a")
      [.exit, .rule [[.nested [[list]], .nested []]] []]).1 =
        .error (.invalidRegex "(" ⟨17, 1, 18⟩) := by
  intro list
  refine ((generate_fails_first _ _).2.1 _).mpr
    ⟨[.statement .exit, .statement (.rule [[.nested [[list]], .nested []]] []),
      .expression [[.nested [[list]], .nested []]], .clause [.nested [[list]], .nested []],
      .condition (.nested [[list]]), .expression [[list]], .clause [list], .condition list,
      .value (.int 1), .value (.regex "a" ⟨12, 1, 13⟩)], .value (.regex "(" ⟨17, 1, 18⟩),
      [.condition (.nested []), .expression []], ?_, .regex _ rfl, ?_⟩
  · simp [Node.all, Node.walk_eq, Node.children, list]
  · simp only [← Node.fault?_eq_none_iff]
    simp [Node.fault?, Value.defect?, list]

end Code

end ScoringRules
