import ScoringRules.CompileError
import ScoringRules.Code.Instruction

/-!
Code under construction. A slot can be reserved before its instruction is known; the code is
finished once every reserved slot has been filled.
-/

namespace ScoringRules

structure CodeBuffer where
  code : Code
  /-- Reserved slots that have not been filled, the lowest first. -/
  unpatched : List Nat
  deriving DecidableEq, Repr

namespace CodeBuffer

def empty : CodeBuffer := ⟨#[], []⟩

def head (buffer : CodeBuffer) : Nat :=
  buffer.code.size

def append (buffer : CodeBuffer) (instruction : Instruction) : CodeBuffer :=
  { buffer with code := buffer.code.push instruction }

def reserve : CodeBuffer → CodeBuffer
  | ⟨code, unpatched⟩ =>
    let unpatched := unpatched ++ [code.size]
    ⟨code.push (.plain .noop), unpatched⟩

/-- The buffer with another instruction at an index; nothing changes if the index is past the
end. -/
def replace : CodeBuffer → Nat → Instruction → CodeBuffer
  | ⟨code, unpatched⟩, index, instruction =>
    if inside : index < code.size then ⟨code.set index instruction inside, unpatched.erase index⟩
    else ⟨code, unpatched⟩

def replace? (buffer : CodeBuffer) (index : Nat) (instruction : Instruction) : Option CodeBuffer :=
  if index < buffer.head then some (buffer.replace index instruction) else none

def finish (buffer : CodeBuffer) : Except CompileError Code :=
  match buffer.unpatched with
  | [] => .ok buffer.code
  | index :: _ => .error (.unpatched index)

end CodeBuffer

end ScoringRules
