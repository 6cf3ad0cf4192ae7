import ScoringRules.Proofs.Machine.Move

/-!
Code with structured jumps, before it has a place: a jump leads behind the innermost scope around
it. Laid out from an index on, such code only jumps forward, and its jumps never cross.
-/

namespace ScoringRules

inductive Block where
  | empty
  | single (instruction : Instruction) (straight : instruction.operation.isJump = false)
  | append (first second : Block)
  | scope (body : Block)
  /-- Jumps behind the scope if a register has the wanted value; `ret` takes whether it does. -/
  | leave (wanted : Bool) (ret tested : Register)

namespace Block

def size : Block → Nat
  | empty => 0
  | single _ _ | leave _ _ _ => 1
  | append first second => first.size + second.size
  | scope body => body.size

def leaving (wanted : Bool) (ret tested : Register) (target : Nat) : Instruction :=
  .jump (.jumpOn wanted) ret tested target

/-- The instructions from an index on. While the end of the scope is not known, a `leave` is only
a slot. -/
def layout (start : Nat) (exit : Option Nat) : Block → List Instruction
  | empty => []
  | single instruction _ => [instruction]
  | append first second => first.layout start exit ++ second.layout (start + first.size) exit
  | scope body => body.layout start (some (start + body.size))
  | leave wanted ret tested => [exit.elim (.plain .noop) (leaving wanted ret tested)]

def slots (start : Nat) : Block → List Nat
  | empty | single _ _ | scope _ => []
  | append first second => first.slots start ++ second.slots (start + first.size)
  | leave _ _ _ => [start]

def exits (start target : Nat) : Block → List (Nat × Instruction)
  | empty | single _ _ | scope _ => []
  | append first second => first.exits start target ++ second.exits (start + first.size) target
  | leave wanted ret tested => [(start, leaving wanted ret tested target)]

/-- The jumps inside the block, in the order in which their targets become known. -/
def patches (start : Nat) : Block → List (Nat × Instruction)
  | empty | single _ _ | leave _ _ _ => []
  | append first second => first.patches start ++ second.patches (start + first.size)
  | scope body => body.patches start ++ body.exits start (start + body.size)

def highest : Block → Register
  | empty | single _ _ => 0
  | append first second => max first.highest second.highest
  | scope body => body.highest
  | leave _ _ tested => tested

def Closed : Block → Prop
  | empty | single _ _ | scope _ => True
  | append first second => first.Closed ∧ second.Closed
  | leave _ _ _ => False

instance : Append Block := ⟨append⟩

@[simp] theorem length_layout (start : Nat) (exit : Option Nat) (block : Block) :
    (block.layout start exit).length = block.size := by
  induction block generalizing start exit with
  | empty | single | leave => rfl
  | append first second ihFirst ihSecond =>
    rw [layout, List.length_append, ihFirst, ihSecond, size]
  | scope body ih => exact ih _ _

theorem layout_of_closed {block : Block} (closed : block.Closed) (start : Nat)
    (exit other : Option Nat) : block.layout start exit = block.layout start other := by
  induction block generalizing start with
  | empty | single | scope => rfl
  | append first second ihFirst ihSecond =>
    rw [layout, layout, ihFirst closed.1, ihSecond closed.2]
  | leave => exact closed.elim

theorem slots_of_closed {block : Block} (closed : block.Closed) (start : Nat) :
    block.slots start = [] := by
  induction block generalizing start with
  | empty | single | scope => rfl
  | append first second ihFirst ihSecond =>
    rw [slots, ihFirst closed.1, ihSecond closed.2, List.append_nil]
  | leave => exact closed.elim

/-- Every jump leads forward, to a place in the block or to the end of the scope around it. -/
theorem target_layout {block : Block} {start exit index : Nat} {instruction : Instruction}
    (placed : (instruction, index) ∈ (block.layout start (some exit)).zipIdx start)
    (jumps : instruction.operation.isJump = true) (within : start + block.size ≤ exit) :
    ∃ target, instruction.right = some (.position target) ∧ index < target ∧
      (target ≤ start + block.size ∨ target = exit) := by
  induction block generalizing start exit with
  | empty => exact nomatch placed
  | single other straight =>
    obtain ⟨rfl, rfl⟩ : instruction = other ∧ index = start := by simpa [layout] using placed
    rw [straight] at jumps
    exact nomatch jumps
  | append first second ihFirst ihSecond =>
    rw [size] at within ⊢
    rw [layout, List.zipIdx_append, length_layout, List.mem_append] at placed
    rcases placed with placed | placed
    · obtain ⟨target, leads, forward, inside⟩ := ihFirst placed (by omega)
      exact ⟨target, leads, forward, by omega⟩
    · obtain ⟨target, leads, forward, inside⟩ := ihSecond placed (by omega)
      exact ⟨target, leads, forward, by omega⟩
  | scope body ih =>
    obtain ⟨target, leads, forward, inside⟩ := ih placed (Nat.le_refl _)
    exact ⟨target, leads, forward, by rw [size]; omega⟩
  | leave wanted ret tested =>
    obtain ⟨rfl, rfl⟩ : instruction = leaving wanted ret tested exit ∧ index = start := by
      simpa [layout] using placed
    exact ⟨exit, rfl, within, .inr rfl⟩

end Block

def JumpsIn (start : Nat) (instructions : List Instruction) (index target : Nat) : Prop :=
  ∃ instruction, (instruction, index) ∈ instructions.zipIdx start ∧
    instruction.operation.isJump = true ∧ instruction.right = some (.position target)

theorem JumpsIn.bounds {start index target : Nat} {instructions : List Instruction}
    (jump : JumpsIn start instructions index target) :
    start ≤ index ∧ index < start + instructions.length := by
  obtain ⟨instruction, placed, -⟩ := jump
  exact ⟨List.le_snd_of_mem_zipIdx placed, List.snd_lt_add_of_mem_zipIdx placed⟩

theorem jumpsIn_append {start index target : Nat} {first second : List Instruction} :
    JumpsIn start (first ++ second) index target ↔
      JumpsIn start first index target ∨ JumpsIn (start + first.length) second index target := by
  unfold JumpsIn
  simp only [List.zipIdx_append, List.mem_append, or_and_right, exists_or]

namespace Block

theorem jumpsIn_layout {block : Block} {start exit index target : Nat}
    (jump : JumpsIn start (block.layout start (some exit)) index target)
    (within : start + block.size ≤ exit) :
    start ≤ index ∧ index < start + block.size ∧ index < target ∧ target ≤ exit ∧
      (target ≤ start + block.size ∨ target = exit) := by
  obtain ⟨low, high⟩ := jump.bounds
  rw [length_layout] at high
  obtain ⟨instruction, placed, jumps, leads⟩ := jump
  obtain ⟨other, leadsToo, forward, inside⟩ := target_layout placed jumps within
  obtain rfl : target = other := by simpa [leads] using leadsToo
  exact ⟨low, high, forward, by omega, inside⟩

/-- Of two jumps, the later one stands behind the target of the first, or leads no further. -/
theorem nested_layout {block : Block} {start exit p q s t : Nat}
    (first : JumpsIn start (block.layout start (some exit)) p s)
    (second : JumpsIn start (block.layout start (some exit)) q t) (ordered : p < q)
    (within : start + block.size ≤ exit) : s ≤ q ∨ t ≤ s := by
  induction block generalizing start exit with
  | empty | single | leave =>
    have firstBounds := jumpsIn_layout first within
    have secondBounds := jumpsIn_layout second within
    simp only [size] at firstBounds secondBounds
    omega
  | append left right ihLeft ihRight =>
    rw [size] at within
    rw [layout, jumpsIn_append, length_layout] at first second
    rcases first with first | first <;> rcases second with second | second
    · exact ihLeft first second (by omega)
    · have firstBounds := jumpsIn_layout first (by omega)
      have secondBounds := jumpsIn_layout second (by omega)
      omega
    · have firstBounds := jumpsIn_layout first (by omega)
      have secondBounds := jumpsIn_layout second (by omega)
      omega
    · exact ihRight first second (by omega)
  | scope body ih => exact ih first second (Nat.le_refl _)

end Block

end ScoringRules
