import Mathlib.Data.List.Induction
import Mathlib.Data.List.Nodup
import ScoringRules.Code.Buffer
import ScoringRules.Proofs.Data.General

/-!
Calls on code under construction, one after the other. The calls decide what the buffer holds: an
entry is what was last put there, and a slot waits until it has been replaced for the first time.
-/

namespace ScoringRules

namespace CodeBuffer

inductive Call where
  | append (instruction : Instruction)
  | reserve
  | replace (index : Nat) (instruction : Instruction)

inductive Answer where
  | done
  | slot (index : Nat)
  | outOfRange

def call (buffer : CodeBuffer) : Call → Answer × CodeBuffer
  | .append instruction => (.done, buffer.append instruction)
  | .reserve => (.slot buffer.head, buffer.reserve)
  | .replace index instruction =>
    match buffer.replace? index instruction with
    | some changed => (.done, changed)
    | none => (.outOfRange, buffer)

def through (buffer : CodeBuffer) (calls : List Call) : CodeBuffer :=
  calls.foldl (fun buffer next => (buffer.call next).2) buffer

def after (calls : List Call) : CodeBuffer :=
  empty.through calls

def log (buffer : CodeBuffer) : List Call → List (Call × Answer)
  | [] => []
  | next :: rest => (next, (buffer.call next).1) :: log (buffer.call next).2 rest

def Call.adds : Call → Bool
  | append _ | reserve => true
  | replace _ _ => false

def slot? : Call × Answer → Option Nat
  | (.reserve, .slot index) => some index
  | _ => none

def replaced? : Call × Answer → Option Nat
  | (.replace index _, .done) => some index
  | _ => none

def slots (calls : List Call) : List Nat :=
  (log empty calls).filterMap slot?

def replaced (calls : List Call) : List Nat :=
  (log empty calls).filterMap replaced?

/-- The instruction was put at the index, and nothing was put there later. -/
inductive LastPut (index : Nat) : List Call → Instruction → Prop where
  | appended {before behind : List Call} (instruction : Instruction)
      (here : (after before).head = index) (last : ∀ other, .replace index other ∉ behind) :
      LastPut index (before ++ .append instruction :: behind) instruction
  | reserved {before behind : List Call} (here : (after before).head = index)
      (last : ∀ other, .replace index other ∉ behind) :
      LastPut index (before ++ .reserve :: behind) (.plain .noop)
  | replaced {before behind : List Call} (instruction : Instruction)
      (inside : index < (after before).head) (last : ∀ other, .replace index other ∉ behind) :
      LastPut index (before ++ .replace index instruction :: behind) instruction

section Operations

variable (buffer : CodeBuffer) (index : Nat) (instruction : Instruction)

@[simp] theorem head_append : (buffer.append instruction).head = buffer.head + 1 :=
  Array.size_push _

@[simp] theorem head_reserve : buffer.reserve.head = buffer.head + 1 :=
  Array.size_push _

theorem getElem?_append (place : Nat) : (buffer.append instruction).code[place]? =
    if place = buffer.head then some instruction else buffer.code[place]? :=
  Array.getElem?_push

theorem getElem?_reserve (place : Nat) : buffer.reserve.code[place]? =
    if place = buffer.head then some (.plain .noop) else buffer.code[place]? :=
  Array.getElem?_push

theorem unpatched_reserve : buffer.reserve.unpatched = buffer.unpatched ++ [buffer.head] :=
  rfl

variable {buffer index}

theorem replace_of_lt (inside : index < buffer.head) : buffer.replace index instruction =
    ⟨buffer.code.set index instruction inside, buffer.unpatched.erase index⟩ :=
  dif_pos inside

theorem head_replace (inside : index < buffer.head) :
    (buffer.replace index instruction).head = buffer.head := by
  rw [replace_of_lt instruction inside]
  exact Array.size_set inside

theorem getElem?_replace (inside : index < buffer.head) (place : Nat) :
    (buffer.replace index instruction).code[place]? =
      if index = place then some instruction else buffer.code[place]? := by
  rw [replace_of_lt instruction inside]
  exact Array.getElem?_set inside

theorem call_replace_of_lt (inside : index < buffer.head) :
    buffer.call (.replace index instruction) = (.done, buffer.replace index instruction) := by
  simp [call, replace?, inside]

theorem call_replace_of_le (past : buffer.head ≤ index) :
    buffer.call (.replace index instruction) = (.outOfRange, buffer) := by
  simp [call, replace?, Nat.not_lt.mpr past]

end Operations

section Runs

theorem log_append (buffer : CodeBuffer) (first second : List Call) :
    buffer.log (first ++ second) = buffer.log first ++ (buffer.through first).log second := by
  induction first generalizing buffer with
  | nil => rfl
  | cons next rest ih => exact congrArg (_ :: ·) (ih _)

theorem length_log (buffer : CodeBuffer) (calls : List Call) :
    (buffer.log calls).length = calls.length := by
  induction calls generalizing buffer with
  | nil => rfl
  | cons next rest ih => exact congrArg (· + 1) (ih _)

theorem getElem?_log (before : List Call) (next : Call) (behind : List Call) :
    (log empty (before ++ next :: behind))[before.length]? =
      some (next, ((after before).call next).1) := by
  rw [log_append, List.getElem?_append_right (Nat.le_of_eq (length_log _ _)), length_log,
    Nat.sub_self]
  rfl

variable (calls : List Call) (next : Call)

theorem after_concat : after (calls ++ [next]) = ((after calls).call next).2 := by
  simp [after, through]

theorem slots_concat : slots (calls ++ [next]) =
    slots calls ++ (slot? (next, ((after calls).call next).1)).toList := by
  rw [slots, log_append, List.filterMap_append]
  rfl

theorem replaced_concat : replaced (calls ++ [next]) =
    replaced calls ++ (replaced? (next, ((after calls).call next).1)).toList := by
  rw [replaced, log_append, List.filterMap_append]
  rfl

end Runs

/-- How a buffer stands to the indices that have been reserved and those that have been replaced. -/
structure Waits (buffer : CodeBuffer) (slots replaced : List Nat) : Prop where
  ascends : slots.Pairwise (· < ·)
  slot_lt : ∀ slot ∈ slots, slot < buffer.head
  replaced_lt : ∀ index ∈ replaced, index < buffer.head
  unpatched_eq : buffer.unpatched = slots.filter (· ∉ replaced)

namespace Waits

variable {buffer : CodeBuffer} {slots replaced : List Nat} (waits : Waits buffer slots replaced)

include waits

theorem append (instruction : Instruction) :
    Waits (buffer.append instruction) slots replaced where
  ascends := waits.ascends
  slot_lt slot member := by
    rw [head_append]
    exact Nat.lt_succ_of_lt (waits.slot_lt slot member)
  replaced_lt index member := by
    rw [head_append]
    exact Nat.lt_succ_of_lt (waits.replaced_lt index member)
  unpatched_eq := waits.unpatched_eq

theorem reserve : Waits buffer.reserve (slots ++ [buffer.head]) replaced where
  ascends := by
    rw [List.pairwise_append]
    refine ⟨waits.ascends, List.pairwise_singleton _ _, fun slot member head same => ?_⟩
    rw [List.mem_singleton.mp same]
    exact waits.slot_lt slot member
  slot_lt slot member := by
    rw [head_reserve]
    rcases List.mem_append.mp member with member | member
    · exact Nat.lt_succ_of_lt (waits.slot_lt slot member)
    · rw [List.mem_singleton.mp member]
      exact Nat.lt_succ_self _
  replaced_lt index member := by
    rw [head_reserve]
    exact Nat.lt_succ_of_lt (waits.replaced_lt index member)
  unpatched_eq := by
    have fresh : buffer.head ∉ replaced := fun member =>
      Nat.lt_irrefl _ (waits.replaced_lt _ member)
    rw [unpatched_reserve, waits.unpatched_eq, List.filter_append]
    simp [fresh]

theorem replace {index : Nat} (inside : index < buffer.head) (instruction : Instruction) :
    Waits (buffer.replace index instruction) slots (replaced ++ [index]) where
  ascends := waits.ascends
  slot_lt slot member := by
    rw [head_replace instruction inside]
    exact waits.slot_lt slot member
  replaced_lt other member := by
    rw [head_replace instruction inside]
    rcases List.mem_append.mp member with member | member
    · exact waits.replaced_lt other member
    · rwa [List.mem_singleton.mp member]
  unpatched_eq := by
    -- A list that ascends holds nothing twice, so the slot goes altogether.
    have nodup : (slots.filter (· ∉ replaced)).Nodup :=
      (waits.ascends.imp Nat.ne_of_lt).filter _
    rw [replace_of_lt instruction inside]
    change buffer.unpatched.erase index = _
    rw [waits.unpatched_eq, nodup.erase_eq_filter, List.filter_filter]
    refine List.filter_congr fun slot _ => ?_
    rw [Bool.eq_iff_iff]
    simp [and_comm]

end Waits

theorem waits_after (calls : List Call) :
    Waits (after calls) (slots calls) (replaced calls) := by
  induction calls using List.reverseRecOn with
  | nil => exact ⟨.nil, List.forall_mem_nil _, List.forall_mem_nil _, rfl⟩
  | append_singleton calls next ih =>
    rw [after_concat, slots_concat, replaced_concat]
    cases next with
    | append instruction => simpa [call, slot?, replaced?] using ih.append instruction
    | reserve => simpa [call, slot?, replaced?] using ih.reserve
    | replace index instruction =>
      by_cases inside : index < (after calls).head
      · simpa [call_replace_of_lt instruction inside, slot?, replaced?] using
          ih.replace inside instruction
      · simpa [call_replace_of_le instruction (Nat.not_lt.mp inside), slot?, replaced?] using ih

section Entries

variable {index : Nat} {instruction : Instruction}

theorem LastPut.concat {calls : List Call} (put : LastPut index calls instruction) {next : Call}
    (other : ∀ new, next ≠ .replace index new) : LastPut index (calls ++ [next]) instruction := by
  have stays {behind : List Call} (last : ∀ new, .replace index new ∉ behind) (new : Instruction) :
      .replace index new ∉ behind ++ [next] := by
    rw [List.mem_append, not_or, List.mem_singleton]
    exact ⟨last new, (other new).symm⟩
  cases put with
  | appended _ here last =>
    rw [List.append_assoc, List.cons_append]
    exact .appended _ here (stays last)
  | reserved here last =>
    rw [List.append_assoc, List.cons_append]
    exact .reserved here (stays last)
  | replaced _ inside last =>
    rw [List.append_assoc, List.cons_append]
    exact .replaced _ inside (stays last)

theorem lt_head_of_getElem? {buffer : CodeBuffer} (found : buffer.code[index]? = some instruction) :
    index < buffer.head :=
  (Array.getElem?_eq_some_iff.mp found).1

theorem getElem?_call {buffer : CodeBuffer} (found : buffer.code[index]? = some instruction)
    {next : Call} (other : ∀ new, next ≠ .replace index new) :
    (buffer.call next).2.code[index]? = some instruction := by
  have inside := lt_head_of_getElem? found
  cases next with
  | append new => rwa [call, getElem?_append, if_neg (Nat.ne_of_lt inside)]
  | reserve => rwa [call, getElem?_reserve, if_neg (Nat.ne_of_lt inside)]
  | replace place new =>
    by_cases within : place < buffer.head
    · have elsewhere : place ≠ index := by
        rintro rfl
        exact other new rfl
      rwa [call_replace_of_lt new within, getElem?_replace new within, if_neg elsewhere]
    · rwa [call_replace_of_le new (Nat.not_lt.mp within)]

theorem getElem?_after_append {before behind : List Call}
    (found : (after before).code[index]? = some instruction)
    (last : ∀ new, .replace index new ∉ behind) :
    (after (before ++ behind)).code[index]? = some instruction := by
  induction behind using List.reverseRecOn with
  | nil => rwa [List.append_nil]
  | append_singleton behind next ih =>
    rw [← List.append_assoc, after_concat]
    refine getElem?_call (ih fun new member => last new (List.mem_append_left _ member)) ?_
    rintro new rfl
    exact last new (List.mem_append_right _ (List.mem_singleton_self _))

theorem lastPut_of_getElem? {calls : List Call}
    (found : (after calls).code[index]? = some instruction) :
    LastPut index calls instruction := by
  induction calls using List.reverseRecOn with
  | nil => cases found
  | append_singleton calls next ih =>
    rw [after_concat] at found
    cases next with
    | append new =>
      rw [call, getElem?_append] at found
      split at found
      · rename_i here
        obtain rfl := Option.some.inj found
        exact .appended new here.symm fun _ => List.not_mem_nil
      · exact (ih found).concat fun _ => nofun
    | reserve =>
      rw [call, getElem?_reserve] at found
      split at found
      · rename_i here
        obtain rfl := Option.some.inj found
        exact .reserved here.symm fun _ => List.not_mem_nil
      · exact (ih found).concat fun _ => nofun
    | replace place new =>
      by_cases inside : place < (after calls).head
      · rw [call_replace_of_lt new inside, getElem?_replace new inside] at found
        split at found
        · rename_i here
          subst here
          obtain rfl := Option.some.inj found
          exact .replaced new inside fun _ => List.not_mem_nil
        · rename_i elsewhere
          exact (ih found).concat fun other same => elsewhere (Call.replace.inj same).1
      · rw [call_replace_of_le new (Nat.not_lt.mp inside)] at found
        refine (ih found).concat fun other same => inside ?_
        rw [(Call.replace.inj same).1]
        exact lt_head_of_getElem? found

theorem getElem?_of_lastPut {calls : List Call} (put : LastPut index calls instruction) :
    (after calls).code[index]? = some instruction := by
  cases put with
  | @appended before behind _ here last =>
    rw [List.append_cons]
    refine getElem?_after_append ?_ last
    rw [after_concat, call, getElem?_append, if_pos here.symm]
  | @reserved before behind here last =>
    rw [List.append_cons]
    refine getElem?_after_append ?_ last
    rw [after_concat, call, getElem?_reserve, if_pos here.symm]
  | @replaced before behind _ inside last =>
    rw [List.append_cons]
    refine getElem?_after_append ?_ last
    rw [after_concat, call_replace_of_lt _ inside, getElem?_replace _ inside, if_pos rfl]

end Entries

section Finish

variable {buffer : CodeBuffer}

theorem finish_eq_ok {code : Code} :
    buffer.finish = .ok code ↔ buffer.unpatched = [] ∧ code = buffer.code := by
  unfold finish
  cases buffer.unpatched with
  | nil => simp [eq_comm]
  | cons index rest => simp

theorem finish_eq_error {error : CompileError} :
    buffer.finish = .error error ↔
      ∃ index, buffer.unpatched.head? = some index ∧ error = .unpatched index := by
  unfold finish
  cases buffer.unpatched with
  | nil => simp
  | cons index rest => simp [eq_comm]

end Finish

theorem head_after (calls : List Call) : (after calls).head = calls.countP Call.adds := by
  induction calls using List.reverseRecOn with
  | nil => rfl
  | append_singleton calls next ih =>
    rw [after_concat, List.countP_append, ← ih, List.countP_singleton]
    cases next with
    | append instruction => exact head_append _ instruction
    | reserve => exact head_reserve _
    | replace index instruction =>
      by_cases inside : index < (after calls).head
      · rw [call_replace_of_lt instruction inside]
        exact head_replace instruction inside
      · rw [call_replace_of_le instruction (Nat.not_lt.mp inside)]
        rfl

/-- What was called, and with what answers, shows in the buffer. A reserved index is where the code
ended, so that reserved indices ascend; an entry is what was last put there; and the code is
finished when every reserved index has been replaced, or else the smallest one that has not is
reported. -/
theorem after_shows_calls (calls : List Call) :
    (∀ before behind, calls = before ++ .reserve :: behind →
      (log empty calls)[before.length]? = some (.reserve, .slot (after before).head)) ∧
    (slots calls).Pairwise (· < ·) ∧
    (∀ before index instruction behind, calls = before ++ .replace index instruction :: behind →
      (log empty calls)[before.length]? = some (.replace index instruction,
        if index < (after before).head then .done else .outOfRange) ∧
      ((after before).head ≤ index →
        after (before ++ [.replace index instruction]) = after before)) ∧
    (after calls).head = calls.countP Call.adds ∧
    (∀ index instruction,
      (after calls).code[index]? = some instruction ↔ LastPut index calls instruction) ∧
    (∀ code, (after calls).finish = .ok code ↔
      (∀ slot ∈ slots calls, slot ∈ replaced calls) ∧ code = (after calls).code) ∧
    ∀ error, (after calls).finish = .error error ↔
      ∃ slot ∈ slots calls, slot ∉ replaced calls ∧
        (∀ other ∈ slots calls, other ∉ replaced calls → slot ≤ other) ∧
        error = .unpatched slot := by
  have waits := waits_after calls
  refine ⟨?_, waits.ascends, ?_, head_after calls,
    fun index instruction => ⟨lastPut_of_getElem?, getElem?_of_lastPut⟩, fun code => ?_,
    fun error => ?_⟩
  · rintro before behind rfl
    exact getElem?_log before .reserve behind
  · rintro before index instruction behind rfl
    rw [getElem?_log, after_concat]
    by_cases inside : index < (after before).head
    · rw [if_pos inside, call_replace_of_lt instruction inside]
      exact ⟨rfl, fun past => absurd inside (Nat.not_lt.mpr past)⟩
    · rw [if_neg inside, call_replace_of_le instruction (Nat.not_lt.mp inside)]
      exact ⟨rfl, fun _ => rfl⟩
  · rw [finish_eq_ok, waits.unpatched_eq, List.filter_eq_nil_iff]
    simp
  · rw [finish_eq_error, waits.unpatched_eq]
    simp only [head?_filter_of_pairwise waits.ascends, decide_eq_true_eq, and_assoc]

end CodeBuffer

end ScoringRules
