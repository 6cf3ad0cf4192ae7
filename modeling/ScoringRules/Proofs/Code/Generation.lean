import ScoringRules.Proofs.Code.Emission
import ScoringRules.Proofs.Code.Translation
import ScoringRules.Proofs.Data.General

/-!
The generator adds the code of the structured blocks to its buffer, or fails with the first
defect.
-/

namespace ScoringRules

/-- An action fails with a defect, or else gives a value and leads to a state. -/
def Yields (s : GeneratorState) (action : Generator α) (defect : Option CompileError) (value : α)
    (next : GeneratorState) : Prop :=
  match defect with
  | some error => (action.run s).1 = .error error
  | none => action.run s = (.ok value, next)

namespace Yields

theorem run_bind (action : Generator α) (rest : α → Generator β) (s : GeneratorState) :
    (action >>= rest).run s =
      match action.run s with
      | (.ok a, t) => (rest a).run t
      | (.error error, t) => (.error error, t) := by
  change (match action.run s with | (result, t) => ExceptT.bindCont rest result t) = _
  rcases action.run s with ⟨_ | _, _⟩ <;> rfl

theorem bind {s t u : GeneratorState} {action : Generator α} {rest : α → Generator β}
    {early late : Option CompileError} {a : α} {b : β} (first : Yields s action early a t)
    (second : Yields t (rest a) late b u) : Yields s (action >>= rest) (early.or late) b u := by
  cases early with
  | some error =>
    obtain ⟨t, failed⟩ : ∃ t, action.run s = (.error error, t) := ⟨_, Prod.ext first rfl⟩
    change ((action >>= rest).run s).1 = .error error
    rw [run_bind, failed]
  | none =>
    change action.run s = (.ok a, t) at first
    rw [Option.none_or]
    unfold Yields at second ⊢
    rw [run_bind, first]
    exact second

theorem step {s t u : GeneratorState} {action : Generator α} {rest : α → Generator β}
    {late : Option CompileError} {a : α} {b : β} (first : action.run s = (.ok a, t))
    (second : Yields t (rest a) late b u) : Yields s (action >>= rest) late b u :=
  @bind _ _ s t u action rest none late a b first second

theorem pure (s : GeneratorState) (value : α) : Yields s (Pure.pure value) none value s := rfl

theorem fail (s t : GeneratorState) (error : CompileError) (value : α) :
    Yields s (Generator.fail error) (some error) value t := rfl

end Yields

namespace Generator

variable {accepts : String → Bool}

theorem yields_operand (s : GeneratorState) (value : Value) :
    Yields s (operand accepts value) (value.defect? accepts) value.operand s := by
  cases value with
  | regex pattern location =>
    cases accepted : accepts pattern <;> simp only [operand, Value.defect?, accepted] <;> rfl
  | _ => rfl

theorem run_append (s : GeneratorState) {instruction : Instruction}
    (straight : instruction.operation.isJump = false) :
    (append instruction).run s = (.ok (), s.emit (.single instruction straight)) := by
  refine Prod.ext rfl ?_
  change { s with buffer := s.buffer.append instruction } = _
  simp [GeneratorState.emit, CodeBuffer.append, CodeBuffer.push_eq_toArray, Block.layout,
    Block.slots, Block.patches, Block.highest]

theorem run_reserve {s : GeneratorState} (wanted : Bool) (ret : Register) {tested : Register}
    (known : tested ≤ s.peak) :
    reserve.run s = (.ok s.buffer.head, s.emit (.leave wanted ret tested)) :=
  Prod.ext rfl (GeneratorState.reserve_eq_emit wanted ret known)

theorem run_allocate {s : GeneratorState} (sound : s.Sound) :
    allocate.run s = (.ok (s.inUse + 1), s.taken) := by
  change (Except.ok (lowestFree s.used), _) = _
  rw [sound.lowestFree]
  rfl

theorem run_release {s : GeneratorState} {block : Block} (tested : s.inUse + 1 ≤ block.highest) :
    (release (s.inUse + 1)).run (s.taken.emit block) = (.ok (), s.emit block) :=
  Prod.ext rfl (GeneratorState.release_emit s tested)

def Emits (action : Register → Generator Unit) (defect : Option CompileError) (part : Part) :
    Prop :=
  ∀ (s : GeneratorState) (ret : Register), s.Sound →
    Yields s (action ret) defect () (s.emit (part s.inUse ret))

/-- The action adds a part's code and a slot behind it, or fails with the part's first defect. -/
def Links (action : Generator Link) (defect : Option CompileError) (part : Part) : Prop :=
  ∀ (s : GeneratorState) (wanted : Bool) (ret : Register), s.Sound →
    Yields s action defect
      ⟨s.buffer.head + (part (s.inUse + 1) (s.inUse + 1)).size, s.inUse + 1⟩
      (s.emit (part (s.inUse + 1) (s.inUse + 1) ++ .leave wanted ret (s.inUse + 1)))

theorem Emits.links {action : Register → Generator Unit} {defect : Option CompileError}
    {part : Part} (emits : Emits action defect part) : Links (link action) defect part := by
  intro s wanted ret sound
  have tested : s.inUse + 1 ≤
      (part (s.inUse + 1) (s.inUse + 1) ++ Block.leave wanted ret (s.inUse + 1)).highest :=
    Nat.le_max_right _ _
  have known : s.inUse + 1 ≤ (s.taken.emit (part (s.inUse + 1) (s.inUse + 1))).peak :=
    Nat.le_trans (Nat.le_max_right _ _) (Nat.le_max_left _ _)
  rw [← Option.or_none (o := defect)]
  refine .step (run_allocate sound) ?_
  refine .bind (emits s.taken _ sound.taken) ?_
  refine .step (run_reserve wanted ret known) ?_
  rw [← GeneratorState.emit_append]
  refine .step (run_release tested) ?_
  rw [GeneratorState.head_emit]
  exact .pure _ _

def links (start : Nat) (tested : Register) : List Block → List Link
  | [] => []
  | member :: rest =>
    ⟨start + member.size, tested⟩ :: links (start + member.size + 1) tested rest

def memberLinks (action : α → Generator Link) : List α → Generator (List Link)
  | [] => return []
  | first :: rest => do
    let firstLink ← action first
    let links ← memberLinks action rest
    return firstLink :: links

theorem clauseLinks_eq_memberLinks (clauses : List Clause) :
    clauseLinks accepts clauses =
      memberLinks (fun first => link fun register => clause accepts register first) clauses := by
  induction clauses with
  | nil => simp [clauseLinks, memberLinks]
  | cons first rest ih => simp [clauseLinks, memberLinks, ih]

theorem conditionLinks_eq_memberLinks (conditions : List Condition) :
    conditionLinks accepts conditions =
      memberLinks (fun first => link fun register => condition accepts register first)
        conditions := by
  induction conditions with
  | nil => simp [conditionLinks, memberLinks]
  | cons first rest ih => simp [conditionLinks, memberLinks, ih]

def listLink (accepts : String → Bool) (left : Operand) (value : Value) : Generator Link := do
  let right ← operand accepts value
  link fun register => append (.compare .isEqual register left right)

theorem listLinks_eq_memberLinks (left : Operand) (values : List Value) :
    listLinks accepts left values = memberLinks (listLink accepts left) values := by
  induction values with
  | nil => simp [listLinks, memberLinks]
  | cons first rest ih => simp [listLinks, memberLinks, listLink, ih]

theorem clause_eq_search (ret : Register) (first second : Condition) (rest : Clause) :
    clause accepts ret (first :: second :: rest) =
      (memberLinks (fun member => link fun register => condition accepts register member)
        (first :: second :: rest) >>= patchAll (.jumpOn false) ret) >>=
          fun _ => append (.negate ret) := by
  simp [clause, memberLinks, conditionLinks_eq_memberLinks, Operation.jumpOn]

theorem expression_eq_search (ret : Register) (first second : Clause) (rest : Expression) :
    expression accepts ret (first :: second :: rest) =
      memberLinks (fun member => link fun register => clause accepts register member)
        (first :: second :: rest) >>= patchAll (.jumpOn true) ret := by
  simp [expression, memberLinks, clauseLinks_eq_memberLinks, Operation.jumpOn]

theorem list_eq_search (ret : Register) (left : Value) (negated : Bool) (first : Value)
    (rest : List Value) :
    condition accepts ret (.list left negated (first :: rest)) =
      operand accepts left >>= fun left =>
        (memberLinks (listLink accepts left) (first :: rest) >>= patchAll (.jumpOn true) ret) >>=
          fun _ => if negated then append (.negate ret) else pure () := by
  simp [condition, listLinks_eq_memberLinks, Operation.jumpOn]

section Members

variable {action : α → Generator Link} {defect : α → Option CompileError} {part : α → Part}

theorem yields_memberLinks {s : GeneratorState} (sound : s.Sound) {members : List α}
    (each : ∀ member ∈ members, Links (action member) (defect member) (part member))
    (wanted : Bool) (ret : Register) :
    Yields s (memberLinks action members) (members.findSome? defect)
      (links s.buffer.head (s.inUse + 1) (Block.members s.inUse (members.map part)))
      (s.emit (.chain wanted ret (s.inUse + 1) (Block.members s.inUse (members.map part)))) := by
  induction members generalizing s with
  | nil =>
    simp only [Block.members, List.map_nil, Block.chain, GeneratorState.emit_empty]
    exact .pure _ _
  | cons first rest ih =>
    obtain ⟨eachFirst, eachRest⟩ := List.forall_mem_cons.mp each
    have following := ih (sound.emit (part first (s.inUse + 1) (s.inUse + 1) ++
      .leave wanted ret (s.inUse + 1))) eachRest
    rw [findSome?_cons_eq_or]
    refine .bind (eachFirst s wanted ret sound) ?_
    rw [← Option.or_none (o := rest.findSome? defect)]
    refine .bind following ?_
    rw [← GeneratorState.emit_append, GeneratorState.head_emit]
    exact .pure _ _

end Members

theorem exits_of_closed {block : Block} (closed : block.Closed) (start target : Nat) :
    block.exits start target = [] := by
  induction block generalizing start with
  | empty | single | scope => rfl
  | append first second ihFirst ihSecond =>
    rw [Block.exits, ihFirst closed.1, ihSecond closed.2, List.append_nil]
  | leave => exact closed.elim

theorem exits_chain {members : List Block} (closed : ∀ member ∈ members, member.Closed)
    (wanted : Bool) (ret tested : Register) (start target : Nat) :
    (Block.chain wanted ret tested members).exits start target =
      (links start tested members).map fun link =>
        (link.slot, .jump (.jumpOn wanted) ret link.register target) := by
  induction members generalizing start with
  | nil => rfl
  | cons first rest ih =>
    obtain ⟨closedFirst, closedRest⟩ := List.forall_mem_cons.mp closed
    change (first.exits start target ++ [_]) ++ _ = _
    rw [exits_of_closed closedFirst, links, List.map_cons, ← ih closedRest]
    rfl

theorem run_patches (s : GeneratorState) (jump : Link → Instruction) (links : List Link) :
    (forIn links PUnit.unit (fun link _ => do
        patch link.slot (jump link)
        pure (.yield PUnit.unit)) : Generator PUnit).run s =
      (.ok (), (links.map fun link => (link.slot, jump link)).foldl GeneratorState.patch s) := by
  induction links generalizing s with
  | nil => rfl
  | cons first rest ih =>
    rw [List.forIn_cons]
    simp only [bind_assoc, pure_bind]
    exact ih _

theorem run_patchAll (s : GeneratorState) (operation : Operation) (ret : Register)
    (links : List Link) :
    (patchAll operation ret links).run s =
      (.ok (), (links.map fun link =>
        (link.slot, .jump operation ret link.register s.buffer.head)).foldl
          GeneratorState.patch s) := by
  have asked : head.run s = (.ok s.buffer.head, s) := rfl
  unfold patchAll
  rw [Yields.run_bind, asked]
  simp only [bind_pure_unit]
  exact run_patches s _ links

theorem run_patchAll_chain {s : GeneratorState} (sound : s.Sound) {parts : List Part}
    (closed : ∀ part ∈ parts, ∀ inUse ret, (part inUse ret).Closed) (wanted : Bool)
    (ret : Register) :
    (patchAll (.jumpOn wanted) ret
        (links s.buffer.head (s.inUse + 1) (Block.members s.inUse parts))).run
      (s.emit (.chain wanted ret (s.inUse + 1) (Block.members s.inUse parts))) =
      (.ok (), s.emit (.search wanted s.inUse ret parts)) := by
  have closedMembers : ∀ member ∈ Block.members s.inUse parts, member.Closed := by
    intro member inside
    obtain ⟨part, here, rfl⟩ := List.mem_map.mp inside
    exact closed part here _ _
  rw [run_patchAll, GeneratorState.head_emit, ← exits_chain closedMembers,
    GeneratorState.foldl_patch_exits sound]
  rfl

theorem yields_search {s : GeneratorState} (sound : s.Sound) {action : α → Generator Link}
    {defect : α → Option CompileError} {part : α → Part} {members : List α}
    (each : ∀ member ∈ members, Links (action member) (defect member) (part member))
    (closed : ∀ member ∈ members, ∀ inUse ret, (part member inUse ret).Closed) (wanted : Bool)
    (ret : Register) :
    Yields s (memberLinks action members >>= patchAll (.jumpOn wanted) ret)
      (members.findSome? defect) ()
      (s.emit (.search wanted s.inUse ret (members.map part))) := by
  rw [← Option.or_none (o := members.findSome? defect)]
  refine .bind (yields_memberLinks sound each wanted ret) ?_
  refine run_patchAll_chain sound ?_ wanted ret
  simpa using closed

theorem firstDefect?_map_cons (kind : NodeKind) (defect : α → Option CompileError) (first : α)
    (rest : List α) :
    firstDefect? kind ((first :: rest).map defect) = (first :: rest).findSome? defect := by
  rw [firstDefect?, List.findSome?_map]
  rfl

theorem firstDefect?_singleton (kind : NodeKind) (defect : Option CompileError) :
    firstDefect? kind [defect] = defect := by
  cases defect <;> rfl

theorem emits_clause {conditions : Clause}
    (each : ∀ member ∈ conditions, Emits (fun register => condition accepts register member)
      (member.defect? accepts) (.ofCondition member)) :
    Emits (fun register => clause accepts register conditions) (clauseDefect? accepts conditions)
      (.ofClause conditions) := by
  intro s ret sound
  match conditions with
  | [] => exact .fail s _ _ _
  | [single] =>
    rw [clauseDefect?, List.map_singleton, firstDefect?_singleton]
    exact each single (List.mem_singleton_self single) s ret sound
  | first :: second :: rest =>
    change Yields s (clause accepts ret (first :: second :: rest)) _ _ _
    rw [clause_eq_search, clauseDefect?, firstDefect?_map_cons,
      ← Option.or_none (o := List.findSome? _ _)]
    refine .bind (yields_search sound (fun member inside => (each member inside).links)
      (fun member _ => Block.closed_ofCondition member) false ret) ?_
    exact (run_append _ rfl).trans (congrArg _ (GeneratorState.emit_append _ _ _).symm)

theorem emits_expression {clauses : Expression}
    (each : ∀ member ∈ clauses, Emits (fun register => clause accepts register member)
      (clauseDefect? accepts member) (.ofClause member)) :
    Emits (fun register => expression accepts register clauses)
      (expressionDefect? accepts clauses) (.ofExpression clauses) := by
  intro s ret sound
  match clauses with
  | [] => exact .fail s _ _ _
  | [single] =>
    rw [expressionDefect?, List.map_singleton, firstDefect?_singleton]
    exact each single (List.mem_singleton_self single) s ret sound
  | first :: second :: rest =>
    change Yields s (expression accepts ret (first :: second :: rest)) _ _ _
    rw [expression_eq_search, expressionDefect?, firstDefect?_map_cons]
    exact yields_search sound (fun member inside => (each member inside).links)
      (fun member _ => Block.closed_ofClause member) true ret

theorem links_listLink (left : Operand) (value : Value) :
    Links (listLink accepts left value) (value.defect? accepts) fun _ ret =>
      .single (.compare .isEqual ret left value.operand) rfl := by
  have emits : Emits (fun ret => append (.compare .isEqual ret left value.operand)) none
      fun _ ret => .single (.compare .isEqual ret left value.operand) rfl :=
    fun s _ _ => run_append s rfl
  intro s wanted ret sound
  rw [← Option.or_none (o := value.defect? accepts)]
  exact .bind (yields_operand s value) (emits.links s wanted ret sound)

theorem emits_condition (tree : Condition) :
    Emits (fun register => condition accepts register tree) (tree.defect? accepts)
      (.ofCondition tree) := by
  induction tree using Condition.induction with
  | scalar left cmp right =>
    intro s ret _
    dsimp only
    rw [condition, Condition.defect?]
    refine .bind (yields_operand s left) ?_
    rw [← Option.or_none (o := right.defect? accepts)]
    exact .bind (yields_operand s right) (run_append s (by cases cmp <;> rfl))
  | list left negated values =>
    intro s ret sound
    dsimp only
    rw [Condition.defect?]
    cases values with
    | nil => rw [condition]; exact .fail s _ _ _
    | cons first rest =>
      rw [list_eq_search, List.isEmpty_cons, if_neg Bool.false_ne_true]
      refine .bind (yields_operand s left) ?_
      rw [← Option.or_none (o := List.findSome? _ _)]
      refine .bind (yields_search sound (fun value _ => links_listLink left.operand value)
        (fun _ _ _ _ => trivial) true ret) ?_
      rw [Block.ofCondition, GeneratorState.emit_append]
      cases negated with
      | true => exact run_append _ rfl
      | false => exact congrArg (Prod.mk _) (GeneratorState.emit_empty _).symm
  | nested clauses ih =>
    rw [Condition.defect?_nested, Block.ofCondition_nested]
    have whole := emits_expression fun clause inside => emits_clause (ih clause inside)
    simpa only [condition] using whole

theorem emits_ofExpression (tree : Expression) :
    Emits (fun register => expression accepts register tree) (expressionDefect? accepts tree)
      (.ofExpression tree) :=
  emits_expression fun _ _ => emits_clause fun member _ => emits_condition member

theorem yields_statements {trees : List Statement}
    (each : ∀ tree ∈ trees, ∀ s : GeneratorState, s.Sound →
      Yields s (statement accepts tree) (tree.defect? accepts) ()
        (s.emit (.ofStatement s.inUse tree)))
    (s : GeneratorState) (sound : s.Sound) :
    Yields s (statements accepts trees) (statementsDefect? accepts trees) ()
      (s.emit (.ofStatements s.inUse trees)) := by
  induction trees generalizing s with
  | nil => exact congrArg (Prod.mk _) (GeneratorState.emit_empty s).symm
  | cons first rest ih =>
    obtain ⟨eachFirst, eachRest⟩ := List.forall_mem_cons.mp each
    rw [statements, statementsDefect?, Block.ofStatements, GeneratorState.emit_append]
    exact .bind (eachFirst s sound) (ih eachRest _ (sound.emit _))

theorem run_patch_skip {s : GeneratorState} (sound : s.Sound) (tested : Register) {body : Block}
    (closed : body.Closed) :
    (patch s.buffer.head (.jump .jumpIfFalse 0 tested
        (s.emit (.leave false 0 tested ++ body)).buffer.head)).run
      (s.emit (.leave false 0 tested ++ body)) =
      (.ok (), s.emit (.scope (.leave false 0 tested ++ body))) := by
  rw [← GeneratorState.foldl_patch_exits sound, GeneratorState.head_emit]
  change _ = (_, (_ :: body.exits _ _).foldl GeneratorState.patch _)
  rw [exits_of_closed closed]
  rfl

theorem yields_statement (tree : Statement) (s : GeneratorState) (sound : s.Sound) :
    Yields s (statement accepts tree) (tree.defect? accepts) ()
      (s.emit (.ofStatement s.inUse tree)) := by
  induction tree using Statement.induction generalizing s with
  | rule tree consequences ih =>
    rw [statement, Statement.defect?, Block.ofStatement]
    have soundTaken := sound.taken
    have known : s.inUse + 1 ≤
        (s.taken.emit (.ofExpression tree (s.inUse + 1) (s.inUse + 1))).peak :=
      Nat.le_trans (Nat.le_max_right _ _) (Nat.le_max_left _ _)
    refine .step (run_allocate sound) ?_
    refine .bind (emits_ofExpression tree s.taken _ soundTaken) ?_
    refine .step (run_reserve false 0 known) ?_
    rw [← Option.or_none (o := statementsDefect? accepts consequences)]
    refine .bind (yields_statements ih _ ((soundTaken.emit _).emit _)) ?_
    rw [← GeneratorState.emit_append]
    refine .step rfl ?_
    refine .step (run_patch_skip (soundTaken.emit _) _ (Block.closed_ofStatements _ _)) ?_
    rw [← GeneratorState.emit_append]
    exact run_release (Nat.le_trans (Nat.le_max_left _ _) (Nat.le_max_right _ _))
  | change score op amount => exact run_append s (by cases op <;> rfl)
  | exit => exact run_append s rfl

def start : GeneratorState := ⟨.empty, [], 0, []⟩

theorem finish_emit_start {block : Block} (closed : block.Closed) :
    (start.emit block).buffer.finish = .ok (block.layout 0 none).toArray := by
  have slots : (start.emit block).buffer.unpatched = [] := Block.slots_of_closed closed 0
  rw [CodeBuffer.finish, slots]
  rfl

variable (accepts) in
/-- A program fails with its first defect, or gets its structured code, laid out from index 0. -/
theorem yields_program (rules : List Statement) :
    Yields start (program accepts rules) (statementsDefect? accepts rules)
      ((Block.ofProgram rules).layout 0 none).toArray
      { start.emit (.ofProgram rules) with
        history := .generated (Block.ofProgram rules).size (Block.ofProgram rules).highest ::
          (start.emit (.ofProgram rules)).history } := by
  have sound : start.Sound :=
    ⟨List.forall_mem_nil _, fun _ =>
      iff_of_false List.not_mem_nil fun bounds => Nat.not_lt_of_le bounds.2 bounds.1⟩
  have closed := Block.closed_ofProgram rules
  rw [program, ← Option.or_none (o := statementsDefect? accepts rules)]
  refine .bind (yields_statements (fun tree _ => yields_statement tree) _ sound) ?_
  refine .step (run_append _ rfl) ?_
  rw [← GeneratorState.emit_append]
  have reached : (start.emit (.ofProgram rules)).buffer.head = (Block.ofProgram rules).size :=
    (GeneratorState.head_emit _ _).trans (Nat.zero_add _)
  have peak : (start.emit (.ofProgram rules)).peak = (Block.ofProgram rules).highest :=
    Nat.zero_max _
  rw [← reached, ← peak]
  refine .step rfl ?_
  refine .step rfl ?_
  change Yields _ (liftM (start.emit (.ofProgram rules)).buffer.finish) none _ _
  rw [finish_emit_start closed]
  rfl

end Generator

namespace Code

variable {accepts : String → Bool} {rules : List Statement}

theorem generate_of_defect {error : CompileError}
    (defect : statementsDefect? accepts rules = some error) :
    (generate accepts rules).1 = .error error := by
  have failed := Generator.yields_program accepts rules
  rw [defect] at failed
  exact failed

theorem generate_of_sound (sound : statementsDefect? accepts rules = none) :
    generate accepts rules =
      (.ok ((Block.ofProgram rules).layout 0 none).toArray,
        (((Block.ofProgram rules).patches 0).map fun patch => .patched patch.1 patch.2) ++
          [.generated (Block.ofProgram rules).size (Block.ofProgram rules).highest]) := by
  have done := Generator.yields_program accepts rules
  rw [sound] at done
  change (Generator.program accepts rules).run ⟨.empty, [], 0, []⟩ = _ at done
  unfold generate
  rw [done]
  simp only [GeneratorState.emit, Generator.start, List.append_nil, List.reverse_cons,
    List.reverse_reverse]
  rfl

end Code

end ScoringRules
