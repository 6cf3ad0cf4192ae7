import ScoringRules.Code.Generator
import ScoringRules.Proofs.Code.Block

/-!
The state of a generator behind a block. Slots that wait for their jumps are those of the scopes
around the block; when a scope ends, the slots in its body are filled in.
-/

namespace ScoringRules

namespace CodeBuffer

theorem push_eq_toArray (code : Code) (instruction : Instruction) :
    code.push instruction = (code.toList ++ [instruction]).toArray := by
  rw [← Array.toList_push, Array.toArray_toList]

theorem replace_middle (before after : List Instruction) (old instruction : Instruction)
    (earlier later : List Nat) (bounded : ∀ slot ∈ earlier, slot < before.length) :
    replace ⟨(before ++ old :: after).toArray, earlier ++ before.length :: later⟩
        before.length instruction =
      ⟨(before ++ instruction :: after).toArray, earlier ++ later⟩ := by
  have absent : before.length ∉ earlier := fun member => Nat.lt_irrefl _ (bounded _ member)
  simp [replace, List.erase_append_right _ absent]

def replaceAll (buffer : CodeBuffer) (patches : List (Nat × Instruction)) : CodeBuffer :=
  patches.foldl (fun buffer patch => buffer.replace patch.1 patch.2) buffer

theorem replaceAll_exits (block : Block) (target : Nat) (before after : List Instruction)
    (earlier later : List Nat) (bounded : ∀ slot ∈ earlier, slot < before.length) :
    replaceAll
        ⟨(before ++ (block.layout before.length none ++ after)).toArray,
          earlier ++ (block.slots before.length ++ later)⟩
        (block.exits before.length target) =
      ⟨(before ++ (block.layout before.length (some target) ++ after)).toArray,
        earlier ++ later⟩ := by
  induction block generalizing before after later with
  | empty | single | scope => rfl
  | append first second ihFirst ihSecond =>
    have behind : (before ++ first.layout before.length (some target)).length =
        before.length + first.size := by simp
    have boundedBehind : ∀ slot ∈ earlier,
        slot < (before ++ first.layout before.length (some target)).length := fun slot member => by
      have := bounded slot member
      omega
    have second := ihSecond (before ++ first.layout before.length (some target)) after later
      boundedBehind
    rw [behind] at second
    unfold replaceAll at ihFirst second ⊢
    simp only [Block.layout, Block.slots, Block.exits, List.foldl_append, List.append_assoc]
    rw [ihFirst before _ _ bounded]
    simpa only [List.append_assoc] using second
  | leave wanted ret tested => exact replace_middle before after _ _ earlier later bounded

end CodeBuffer

namespace GeneratorState

def inUse (s : GeneratorState) : Nat :=
  s.used.length

/-- Slots that wait for their instructions are in the code, and the registers that are taken are
the lowest ones. -/
structure Sound (s : GeneratorState) : Prop where
  slots : ∀ slot ∈ s.buffer.unpatched, slot < s.buffer.head
  lowest : ∀ register, register ∈ s.used ↔ 0 < register ∧ register ≤ s.inUse

theorem Sound.lowestFree {s : GeneratorState} (sound : s.Sound) :
    Generator.lowestFree s.used = s.inUse + 1 := by
  have none : ((List.range' 1 s.used.length).find? fun register => !s.used.contains register) =
      none := by
    rw [List.find?_range'_eq_none]
    intro register positive bounded
    have inside : register ≤ s.inUse := by
      rw [inUse]
      omega
    simpa using (sound.lowest register).mpr ⟨positive, inside⟩
  rw [Generator.lowestFree, none, Option.getD_none, inUse]

def emit (s : GeneratorState) (block : Block) : GeneratorState where
  buffer := ⟨(s.buffer.code.toList ++ block.layout s.buffer.head none).toArray,
    s.buffer.unpatched ++ block.slots s.buffer.head⟩
  used := s.used
  peak := max s.peak block.highest
  history := ((block.patches s.buffer.head).map fun patch => .patched patch.1 patch.2).reverse ++
    s.history

@[simp] theorem head_emit (s : GeneratorState) (block : Block) :
    (s.emit block).buffer.head = s.buffer.head + block.size := by
  simp [emit, CodeBuffer.head]

theorem emit_append (s : GeneratorState) (first second : Block) :
    s.emit (first ++ second) = (s.emit first).emit second := by
  have behind := head_emit s first
  change emit s (.append first second) = _
  unfold emit at behind ⊢
  simp only [behind, Block.layout, Block.slots, Block.patches, Block.highest, List.append_assoc,
    List.map_append, List.reverse_append, Nat.max_assoc]

theorem emit_empty (s : GeneratorState) : s.emit .empty = s := by
  simp [emit, Block.layout, Block.slots, Block.patches, Block.highest]

theorem slots_bounds {block : Block} {start slot : Nat} (member : slot ∈ block.slots start) :
    start ≤ slot ∧ slot < start + block.size := by
  induction block generalizing start with
  | empty | single | scope => exact nomatch member
  | append first second ihFirst ihSecond =>
    rw [Block.slots, List.mem_append] at member
    rw [Block.size]
    rcases member with member | member
    · have := ihFirst member
      omega
    · have := ihSecond member
      omega
  | leave =>
    obtain rfl := List.mem_singleton.mp member
    exact ⟨Nat.le_refl _, Nat.lt_succ_self _⟩

theorem Sound.emit {s : GeneratorState} (sound : s.Sound) (block : Block) :
    (s.emit block).Sound := by
  refine ⟨fun slot member => ?_, sound.lowest⟩
  rw [head_emit]
  rcases List.mem_append.mp member with member | member
  · have := sound.slots slot member
    omega
  · exact (slots_bounds member).2

def patch (s : GeneratorState) (patch : Nat × Instruction) : GeneratorState :=
  { s with
    buffer := s.buffer.replace patch.1 patch.2
    history := .patched patch.1 patch.2 :: s.history }

theorem foldl_patch (s : GeneratorState) (patches : List (Nat × Instruction)) :
    patches.foldl patch s =
      { s with
        buffer := s.buffer.replaceAll patches
        history := (patches.map fun patch => .patched patch.1 patch.2).reverse ++ s.history } := by
  induction patches generalizing s with
  | nil => rfl
  | cons first rest ih => simp [ih, patch, CodeBuffer.replaceAll]

theorem foldl_patch_exits {s : GeneratorState} (sound : s.Sound) (body : Block) :
    (body.exits s.buffer.head (s.buffer.head + body.size)).foldl patch (s.emit body) =
      s.emit (.scope body) := by
  have place : s.buffer.code.toList.length = s.buffer.head := rfl
  have filled := CodeBuffer.replaceAll_exits body (s.buffer.head + body.size)
    s.buffer.code.toList [] s.buffer.unpatched [] sound.slots
  simp only [place, List.append_nil] at filled
  rw [foldl_patch]
  simp only [emit, Block.layout, Block.slots, Block.patches, Block.highest, List.map_append,
    List.reverse_append, List.append_assoc, List.append_nil, filled]

def taken (s : GeneratorState) : GeneratorState :=
  { s with used := (s.inUse + 1) :: s.used, peak := max s.peak (s.inUse + 1) }

theorem Sound.taken {s : GeneratorState} (sound : s.Sound) : s.taken.Sound := by
  refine ⟨sound.slots, fun register => ?_⟩
  change register ∈ (s.inUse + 1) :: s.used ↔ 0 < register ∧ register ≤ s.inUse + 1
  rw [List.mem_cons, sound.lowest register, Nat.le_add_one_iff]
  constructor
  · rintro (rfl | ⟨positive, below⟩)
    · exact ⟨Nat.succ_pos _, .inr rfl⟩
    · exact ⟨positive, .inl below⟩
  · rintro ⟨positive, below | rfl⟩
    · exact .inr ⟨positive, below⟩
    · exact .inl rfl

theorem reserve_eq_emit {s : GeneratorState} (wanted : Bool) (ret : Register) {tested : Register}
    (known : tested ≤ s.peak) :
    { s with buffer := s.buffer.reserve } = s.emit (.leave wanted ret tested) := by
  simp only [emit, CodeBuffer.reserve, CodeBuffer.push_eq_toArray, Block.layout, Block.slots,
    Block.patches, Block.highest, Nat.max_eq_left known]
  rfl

/-- A register that is given back leaves no trace if a jump of the block tests it. -/
theorem release_emit (s : GeneratorState) {block : Block}
    (tested : s.inUse + 1 ≤ block.highest) :
    { s.taken.emit block with used := (s.taken.emit block).used.erase (s.inUse + 1) } =
      s.emit block := by
  simp only [emit, taken, List.erase_cons_head, Nat.max_assoc, Nat.max_eq_right tested]

end GeneratorState

end ScoringRules
