import Mathlib.Data.List.Perm.Subperm
import ScoringRules.Proofs.Code.Generation

/-!
Registers while code is generated. Whatever registers are taken, a call takes others that are free,
adds code that writes no taken register but the one for its result, and gives back what it took.
-/

namespace ScoringRules

def Instruction.Writes (instruction : Instruction) (register : Register) : Prop :=
  instruction.ret = register ∧ register ≠ 0

namespace Generator

theorem lowestFree_notMem (used : List Register) : lowestFree used ∉ used := by
  unfold lowestFree
  cases found : (List.range' 1 used.length).find? fun register => !used.contains register with
  | some register => simpa using List.find?_some found
  | none =>
    rw [List.find?_range'_eq_none] at found
    intro member
    -- All of one register more than are taken would be taken.
    have taken : List.range' 1 (used.length + 1) ⊆ used := by
      intro register inside
      obtain ⟨positive, bounded⟩ := List.mem_range'_1.mp inside
      by_cases last : register = used.length + 1
      · exact last ▸ member
      · have within : register < 1 + used.length := by omega
        simpa using found register positive within
    have bound := (List.Nodup.subperm (List.nodup_range' 1) taken).length_le
    rw [List.length_range'] at bound
    exact Nat.not_succ_le_self _ bound

/-- What a call finds: the code in front of its own, and the registers that it may write. -/
structure Frame where
  before : List Instruction
  writable : Register → Prop

namespace Frame

/-- Behind the code in front there is only code that writes such registers. -/
def Holds (frame : Frame) (s : GeneratorState) : Prop :=
  ∃ added, s.buffer.code.toList = frame.before ++ added ∧
    ∀ instruction ∈ added, ∀ register, instruction.Writes register → frame.writable register

def Fresh (frame : Frame) (used : List Register) : Prop :=
  ∀ register, register ∉ used → frame.writable register

variable {frame : Frame} {s : GeneratorState}

theorem Holds.before_le (holds : frame.Holds s) : frame.before.length ≤ s.buffer.head := by
  obtain ⟨added, whole, -⟩ := holds
  have length := congrArg List.length whole
  rw [List.length_append, Array.length_toList] at length
  exact Nat.le.intro length.symm

theorem Holds.push (holds : frame.Holds s) {instruction : Instruction}
    (allowed : ∀ register, instruction.Writes register → frame.writable register)
    {t : GeneratorState} (pushed : t.buffer.code = s.buffer.code.push instruction) :
    frame.Holds t := by
  obtain ⟨added, whole, writes⟩ := holds
  refine ⟨added ++ [instruction], ?_, ?_⟩
  · rw [pushed, Array.toList_push, whole, List.append_assoc]
  · intro other member
    rcases List.mem_append.mp member with inside | last
    · exact writes other inside
    · exact List.mem_singleton.mp last ▸ allowed

theorem Holds.patch (holds : frame.Holds s) {slot : Nat} (behind : frame.before.length ≤ slot)
    {instruction : Instruction}
    (allowed : ∀ register, instruction.Writes register → frame.writable register) :
    frame.Holds (s.patch (slot, instruction)) := by
  obtain ⟨added, whole, writes⟩ := holds
  unfold GeneratorState.patch CodeBuffer.replace
  dsimp only
  split
  · refine ⟨added.set (slot - frame.before.length) instruction, ?_, ?_⟩
    · dsimp only
      rw [Array.toList_set, whole, List.set_append_right _ _ behind]
    · intro other member
      rcases List.mem_or_eq_of_mem_set member with inside | rfl
      · exact writes other inside
      · exact allowed
  · exact ⟨added, whole, writes⟩

theorem Holds.foldl_patch (holds : frame.Holds s) {patches : List (Nat × Instruction)}
    (behind : ∀ patch ∈ patches, frame.before.length ≤ patch.1)
    (allowed : ∀ patch ∈ patches, ∀ register, patch.2.Writes register → frame.writable register) :
    frame.Holds (patches.foldl GeneratorState.patch s) := by
  induction patches generalizing s with
  | nil => exact holds
  | cons first rest ih =>
    obtain ⟨behindFirst, behindRest⟩ := List.forall_mem_cons.mp behind
    obtain ⟨allowedFirst, allowedRest⟩ := List.forall_mem_cons.mp allowed
    exact ih (holds.patch behindFirst allowedFirst) behindRest allowedRest

end Frame

/-- From a state in which these registers are taken, an action keeps the frame. If it succeeds, the
same registers are taken, and its value is good. -/
def Keeps (frame : Frame) (used : List Register) (action : Generator α) (good : α → Prop) :
    Prop :=
  ∀ s : GeneratorState, s.used = used → frame.Holds s →
    frame.Holds (action.run s).2 ∧
      ∀ a, (action.run s).1 = .ok a → (action.run s).2.used = used ∧ good a

namespace Keeps

variable {frame : Frame} {used : List Register} {accepts : String → Bool}

theorem bind {action : Generator α} {rest : α → Generator β} {good : α → Prop} {fine : β → Prop}
    (first : Keeps frame used action good)
    (second : ∀ a, good a → Keeps frame used (rest a) fine) :
    Keeps frame used (action >>= rest) fine := by
  intro s taken holds
  obtain ⟨held, after⟩ := first s taken holds
  rw [Yields.run_bind]
  generalize action.run s = outcome at held after ⊢
  rcases outcome with ⟨_ | a, t⟩
  · exact ⟨held, nofun⟩
  · obtain ⟨takenToo, fit⟩ := after a rfl
    exact second a fit t takenToo held

theorem pure {good : α → Prop} {a : α} (fit : good a) :
    Keeps frame used (Pure.pure a : Generator α) good := by
  intro s taken holds
  refine ⟨holds, fun b done => ⟨taken, ?_⟩⟩
  obtain rfl : a = b := Except.ok.inj done
  exact fit

theorem fail (error : CompileError) (good : α → Prop) :
    Keeps frame used (Generator.fail error : Generator α) good :=
  fun _ _ holds => ⟨holds, nofun⟩

theorem append {instruction : Instruction}
    (allowed : ∀ register, instruction.Writes register → frame.writable register) :
    Keeps frame used (Generator.append instruction) fun _ => True :=
  fun _ taken holds => ⟨holds.push allowed rfl, fun _ _ => ⟨taken, trivial⟩⟩

theorem operand (value : Value) :
    Keeps frame used (Generator.operand accepts value) fun _ => True := by
  cases value with
  | regex pattern location =>
    rw [Generator.operand]
    split
    · exact .pure trivial
    · exact .fail _ _
  | _ => exact .pure trivial

theorem link {body : Register → Generator Unit} (fresh : frame.Fresh used)
    (each : ∀ register, frame.writable register →
      Keeps frame (register :: used) (body register) fun _ => True) :
    Keeps frame used (Generator.link body) fun link => frame.before.length ≤ link.slot := by
  intro s taken holds
  have allowed : frame.writable (lowestFree used) := fresh _ (lowestFree_notMem used)
  let allocated : GeneratorState :=
    { s with used := lowestFree s.used :: s.used, peak := max s.peak (lowestFree s.used) }
  obtain ⟨held, after⟩ := each _ allowed allocated (by rw [← taken]) holds
  have first : allocate.run s = (.ok (lowestFree used), allocated) := by
    rw [← taken]
    rfl
  unfold Generator.link
  rw [Yields.run_bind, first]
  dsimp only
  rw [Yields.run_bind]
  generalize (body (lowestFree used)).run allocated = outcome at held after ⊢
  rcases outcome with ⟨_ | _, t⟩
  · exact ⟨held, nofun⟩
  · obtain ⟨takenToo, -⟩ := after _ rfl
    refine ⟨held.push (fun _ writes => absurd writes.1.symm writes.2) rfl, ?_⟩
    intro link done
    obtain rfl := Except.ok.inj done
    refine ⟨?_, held.before_le⟩
    change t.used.erase (lowestFree used) = used
    rw [takenToo, List.erase_cons_head]

theorem memberLinks {action : α → Generator Link} {members : List α}
    (each : ∀ member ∈ members,
      Keeps frame used (action member) fun link => frame.before.length ≤ link.slot) :
    Keeps frame used (Generator.memberLinks action members)
      fun links => ∀ link ∈ links, frame.before.length ≤ link.slot := by
  induction members with
  | nil => exact .pure (List.forall_mem_nil _)
  | cons first rest ih =>
    obtain ⟨eachFirst, eachRest⟩ := List.forall_mem_cons.mp each
    refine .bind eachFirst fun link behind => ?_
    refine .bind (ih eachRest) fun links behindToo => ?_
    exact .pure (List.forall_mem_cons.mpr ⟨behind, behindToo⟩)

theorem patchAll (operation : Operation) {ret : Register} (allowed : frame.writable ret)
    {links : List Link} (behind : ∀ link ∈ links, frame.before.length ≤ link.slot) :
    Keeps frame used (Generator.patchAll operation ret links) fun _ => True := by
  intro s taken holds
  rw [run_patchAll]
  refine ⟨holds.foldl_patch ?_ ?_, fun _ _ => ⟨?_, trivial⟩⟩
  · rw [List.forall_mem_map]
    exact behind
  · rw [List.forall_mem_map]
    rintro link - register ⟨rfl, -⟩
    exact allowed
  · rw [GeneratorState.foldl_patch]
    exact taken

theorem search {action : α → Generator Link} {members : List α}
    (each : ∀ member ∈ members,
      Keeps frame used (action member) fun link => frame.before.length ≤ link.slot)
    (operation : Operation) {ret : Register} (allowed : frame.writable ret) :
    Keeps frame used (Generator.memberLinks action members >>= Generator.patchAll operation ret)
      fun _ => True :=
  .bind (memberLinks each) fun _ behind => patchAll operation allowed behind

theorem negation {ret : Register} (allowed : frame.writable ret) :
    Keeps frame used (Generator.append (.negate ret)) fun _ => True :=
  append fun _ writes => writes.1 ▸ allowed

end Keeps

variable {accepts : String → Bool}

def Careful (action : Register → Generator Unit) : Prop :=
  ∀ (frame : Frame) (used : List Register) (ret : Register), frame.Fresh used →
    frame.writable ret → Keeps frame used (action ret) fun _ => True

theorem Careful.link {action : Register → Generator Unit} (careful : Careful action)
    {frame : Frame} {used : List Register} (fresh : frame.Fresh used) :
    Keeps frame used (link action) fun link => frame.before.length ≤ link.slot :=
  .link fresh fun register allowed => careful frame (register :: used) register
    (fun other absent => fresh other fun member => absent (List.mem_cons_of_mem _ member)) allowed

theorem careful_clause {conditions : Clause}
    (each : ∀ member ∈ conditions, Careful fun register => condition accepts register member) :
    Careful fun register => clause accepts register conditions := by
  intro frame used ret fresh allowed
  match conditions with
  | [] => exact .fail _ _
  | [single] => exact each single (List.mem_singleton_self single) frame used ret fresh allowed
  | first :: second :: rest =>
    dsimp only
    rw [clause_eq_search]
    exact .bind (.search (fun member inside => (each member inside).link fresh) _ allowed)
      fun _ _ => .negation allowed

theorem careful_expression {clauses : Expression}
    (each : ∀ member ∈ clauses, Careful fun register => clause accepts register member) :
    Careful fun register => expression accepts register clauses := by
  intro frame used ret fresh allowed
  match clauses with
  | [] => exact .fail _ _
  | [single] => exact each single (List.mem_singleton_self single) frame used ret fresh allowed
  | first :: second :: rest =>
    dsimp only
    rw [expression_eq_search]
    exact .search (fun member inside => (each member inside).link fresh) _ allowed

theorem careful_condition (tree : Condition) :
    Careful fun register => condition accepts register tree := by
  induction tree using Condition.induction with
  | scalar left cmp right =>
    intro frame used ret fresh allowed
    dsimp only
    rw [condition]
    refine .bind (.operand left) fun _ _ => .bind (.operand right) fun _ _ => ?_
    exact .append fun _ writes => writes.1 ▸ allowed
  | list left negated values =>
    intro frame used ret fresh allowed
    dsimp only
    cases values with
    | nil =>
      rw [condition]
      exact .fail _ _
    | cons first rest =>
      rw [list_eq_search]
      refine .bind (.operand left) fun operand _ => .bind (.search (fun value _ => ?_) _ allowed)
        fun _ _ => ?_
      · refine .bind (.operand value) fun _ _ => .link fresh fun register allowed => ?_
        exact .append fun _ writes => writes.1 ▸ allowed
      · cases negated with
        | true => exact .negation allowed
        | false => exact .pure trivial
  | nested clauses ih =>
    have whole := careful_expression fun clause inside => careful_clause (ih clause inside)
    simpa only [condition] using whole

/-- Whatever the state, the action adds code that writes no taken register but `ret`. If it
succeeds, the same registers are taken as before. -/
def Confined (ret : Register) (action : Generator Unit) : Prop :=
  ∀ s : GeneratorState,
    (∃ added, (action.run s).2.buffer.code.toList = s.buffer.code.toList ++ added ∧
      ∀ instruction ∈ added, ∀ register, instruction.Writes register →
        register = ret ∨ register ∉ s.used) ∧
    ((action.run s).1 = .ok () → (action.run s).2.used = s.used)

theorem Careful.confined {action : Register → Generator Unit} (careful : Careful action)
    (ret : Register) : Confined ret (action ret) := by
  intro s
  obtain ⟨held, after⟩ := careful
    ⟨s.buffer.code.toList, fun register => register = ret ∨ register ∉ s.used⟩ s.used ret
    (fun _ => .inr) (.inl rfl) s rfl ⟨[], (List.append_nil _).symm, List.forall_mem_nil _⟩
  exact ⟨held, fun done => (after () done).1⟩

end Generator

end ScoringRules
