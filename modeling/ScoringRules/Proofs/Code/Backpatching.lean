import Mathlib.Data.List.Nodup
import ScoringRules.Proofs.Code.Compilation
import ScoringRules.Proofs.Code.Jumps

/-!
Filling in jumps. The messages of a compilation about jumps that have been filled in tell the jumps
of the code: each of them once, and as it stands there in the end.
-/

namespace ScoringRules

def jumpsFrom (start : Nat) (instructions : List Instruction) : List (Nat × Instruction) :=
  ((instructions.zipIdx start).map Prod.swap).filter fun placed => placed.2.operation.isJump

theorem jumpsFrom_append (start : Nat) (first second : List Instruction) :
    jumpsFrom start (first ++ second) =
      jumpsFrom start first ++ jumpsFrom (start + first.length) second := by
  unfold jumpsFrom
  rw [List.zipIdx_append, List.map_append, List.filter_append]

theorem jumpsFrom_singleton (start : Nat) (instruction : Instruction) :
    jumpsFrom start [instruction] =
      if instruction.operation.isJump then [(start, instruction)] else [] := by
  unfold jumpsFrom
  rw [List.zipIdx_singleton, List.map_singleton, List.filter_singleton, Bool.cond_eq_ite]
  rfl

theorem nodup_jumpsFrom (start : Nat) (instructions : List Instruction) :
    ((jumpsFrom start instructions).map Prod.fst).Nodup := by
  have indices : ((instructions.zipIdx start).map Prod.swap).map Prod.fst =
      List.range' start instructions.length := by
    rw [List.map_map, ← List.zipIdx_map_snd]
    rfl
  refine (List.filter_sublist.map Prod.fst).nodup ?_
  rw [indices]
  exact List.nodup_range'

theorem mem_jumpsFrom_toList {code : Code} {index : Nat} {instruction : Instruction} :
    (index, instruction) ∈ jumpsFrom 0 code.toList ↔
      code[index]? = some instruction ∧ instruction.operation.isJump = true := by
  unfold jumpsFrom
  rw [List.mem_filter, List.mem_map_swap, Code.mem_zipIdx_toList]

namespace Block

theorem isJump_leaving (wanted : Bool) (ret tested : Register) (target : Nat) :
    (leaving wanted ret tested target).operation.isJump = true := by
  cases wanted <;> rfl

/-- The jumps of a block are filled in once each: inside it, or where the scope around it ends. -/
theorem patches_append_exits_perm (block : Block) (start exit : Nat) :
    (block.patches start ++ block.exits start exit).Perm
      (jumpsFrom start (block.layout start (some exit))) := by
  induction block generalizing start exit with
  | empty => exact .refl _
  | single instruction straight =>
    rw [layout, jumpsFrom_singleton, straight]
    exact .refl _
  | append first second ihFirst ihSecond =>
    rw [layout, jumpsFrom_append, length_layout, patches, exits]
    refine .trans ?_ ((ihFirst start exit).append (ihSecond (start + first.size) exit))
    simp only [List.append_assoc]
    refine .append_left _ ?_
    simp only [← List.append_assoc]
    exact .append_right _ List.perm_append_comm
  | scope body ih =>
    rw [patches, exits, List.append_nil]
    exact ih start (start + body.size)
  | leave wanted ret tested =>
    rw [layout, Option.elim_some, jumpsFrom_singleton, if_pos (isJump_leaving ..)]
    exact .refl _

end Block

namespace Event

def patch? : Event → Option (Nat × Instruction)
  | patched index instruction => some (index, instruction)
  | _ => none

def message (event : Event) : Level × String :=
  (event.level, event.text)

theorem eq_patched_of_patch? {event : Event} {patch : Nat × Instruction}
    (found : event.patch? = some patch) : event = .patched patch.1 patch.2 := by
  cases event with
  | patched index instruction =>
    obtain rfl := Option.some.inj found
    rfl
  | _ => exact nomatch found

end Event

/-- A debug message that begins like those about instructions that have been filled in. -/
def TellsPatch (message : Level × String) : Prop :=
  message.1 = .debug ∧ "backpatch ".toList <+: message.2.toList

instance : DecidablePred TellsPatch :=
  fun _ => inferInstanceAs (Decidable (_ ∧ _))

theorem tellsPatch_patched (index : Nat) (instruction : Instruction) :
    TellsPatch (Event.patched index instruction).message := by
  refine ⟨rfl, ?_⟩
  dsimp only [Event.message, Event.text]
  rw [String.append_assoc, String.append_assoc, String.toList_append]
  exact List.prefix_append _ _

theorem not_tellsPatch_append {level : Level} {start : String}
    (other : start.toList.head?.any (· != 'b') = true) (rest : String) :
    ¬ TellsPatch (level, start ++ rest) := by
  rintro ⟨-, more, same⟩
  obtain ⟨first, begins, differs⟩ := (Option.any_eq_true _ _).mp other
  have heads := congrArg List.head? same
  rw [String.toList_append, List.head?_append, List.head?_append, begins, Option.some_or,
    show "backpatch ".toList.head? = some 'b' by decide, Option.some_or] at heads
  obtain rfl := Option.some.inj heads
  exact nomatch differs

theorem not_tellsPatch_message {event : Event} (other : event.patch? = none) :
    ¬ TellsPatch event.message := by
  cases event with
  | patched index instruction => exact nomatch other
  | dispatched index instruction => exact fun tells => nomatch tells.1
  | exited index => exact not_tellsPatch_append (by decide) _
  | _ =>
    dsimp only [Event.message, Event.text]
    simp only [String.append_assoc]
    exact not_tellsPatch_append (by decide) _

theorem filter_tellsPatch (events : List Event) :
    (events.map Event.message).filter (fun message => TellsPatch message) =
      (events.filterMap Event.patch?).map fun patch =>
        (.debug, "backpatch " ++ toString patch.1 ++ ": " ++ patch.2.text) := by
  induction events with
  | nil => rfl
  | cons event rest ih =>
    cases found : event.patch? with
    | none =>
      rw [List.map_cons, List.filterMap_cons_none found,
        List.filter_cons_of_neg (by simpa using not_tellsPatch_message found), ih]
    | some patch =>
      obtain rfl := Event.eq_patched_of_patch? found
      rw [List.map_cons, List.filterMap_cons_some found,
        List.filter_cons_of_pos (by simpa using tellsPatch_patched patch.1 patch.2), ih]
      rfl

namespace Code

variable {accepts : String → Bool} {source : String} {code : Code}

/-- Of the messages of a compilation, those about instructions that have been filled in are about
the jumps of its code: about each of them once, and with the instruction that stands there in the
end. -/
theorem compile_patches_once (compiled : compile accepts source = .ok code) :
    ∃ patches : List (Nat × Instruction),
      (((tracedCompile accepts source).2.map Event.message).filter fun message =>
          TellsPatch message) =
        patches.map (fun patch =>
          (.debug, "backpatch " ++ toString patch.1 ++ ": " ++ patch.2.text)) ∧
      (patches.map Prod.fst).Nodup ∧
      ∀ index instruction, (index, instruction) ∈ patches ↔
        code[index]? = some instruction ∧ instruction.operation.isJump = true := by
  obtain ⟨tokens, rules, reads, generated⟩ := reads_of_compile compiled
  obtain ⟨sound, rfl⟩ := eq_layout_of_generate generated
  have closed := Block.closed_ofProgram rules
  have jumps := (Block.ofProgram rules).patches_append_exits_perm 0 0
  rw [Generator.exits_of_closed closed, List.append_nil,
    Block.layout_of_closed closed 0 (some 0) none] at jumps
  refine ⟨(Block.ofProgram rules).patches 0, ?_, ?_, fun index instruction => ?_⟩
  · rw [filter_tellsPatch, tracedCompile_of_reads reads, generate_of_sound sound]
    congr 1
    change List.filterMap Event.patch? (List.map _ _ ++ [_]) = _
    rw [List.filterMap_append, List.filterMap_map]
    exact (List.append_nil _).trans List.filterMap_some
  · exact (jumps.map Prod.fst).nodup_iff.mpr (nodup_jumpsFrom _ _)
  · rw [jumps.mem_iff]
    exact mem_jumpsFrom_toList

theorem compile_patches_once_nestedRule :
    let source := "when 1 < 2 then when 3 in [4, 5] then exit done done"
    ∃ (code : Code) (patches : List (Nat × Instruction)),
      compile (fun _ => true) source = .ok code ∧ code.size = 9 ∧
      (((tracedCompile (fun _ => true) source).2.map Event.message).filter fun message =>
          TellsPatch message) =
        patches.map (fun patch =>
          (.debug, "backpatch " ++ toString patch.1 ++ ": " ++ patch.2.text)) ∧
      (patches.map Prod.fst).Nodup ∧
      ∀ index instruction, (index, instruction) ∈ patches ↔
        code[index]? = some instruction ∧ instruction.operation.isJump = true := by
  intro source
  have compiled : compile (fun _ => true) source =
      .ok #[.compare .isLess 1 (.int 1) (.int 2), .jump .jumpIfFalse 0 1 8,
        .compare .isEqual 3 (.int 3) (.int 4), .jump .jumpIfTrue 2 3 6,
        .compare .isEqual 3 (.int 3) (.int 5), .jump .jumpIfTrue 2 3 6,
        .jump .jumpIfFalse 0 2 8, .plain .exit, .plain .noop] := by cbv
  obtain ⟨patches, told, once, placed⟩ := compile_patches_once compiled
  exact ⟨_, patches, compiled, rfl, told, once, placed⟩

end Code

end ScoringRules
