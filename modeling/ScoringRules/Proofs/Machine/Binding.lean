import ScoringRules.Machine.Run
import Std.Data.HashMap.Lemmas
import Std.Data.TreeMap.Lemmas

/-!
Runs depend on the variables that the code names, and on them only through the texts they are read
as. It makes no difference in what kind of map they are bound, nor whether a variable is bound to
the empty text or not at all.
-/

namespace ScoringRules

/-- Texts bound to names in a map of some kind. -/
class Bindings (β : Type u) where
  lookup? : β → String → Option String
  /-- What a run is given. -/
  toVariables : β → Variables
  get?_toVariables : ∀ bindings name, (toVariables bindings).get? name = lookup? bindings name

namespace Bindings

instance : Bindings Variables where
  lookup? := OrderedMap.get?
  toVariables := id
  get?_toVariables _ _ := rfl

instance : Bindings (Std.HashMap String String) where
  lookup? map name := map[name]?
  toVariables map := ⟨map.toList, by
    have distinct := map.distinct_keys_toList
    rw [List.Nodup, List.pairwise_map]
    exact distinct.imp fun different same => by simp [same] at different⟩
  get?_toVariables map name := by
    ext value
    rw [OrderedMap.get?_eq_some_iff]
    exact Std.HashMap.mem_toList_iff_getElem?_eq_some

instance : Bindings (Std.TreeMap String String) where
  lookup? map name := map[name]?
  toVariables map := ⟨map.toList, by
    have distinct := map.distinct_keys_toList
    rw [List.Nodup, List.pairwise_map]
    exact distinct.imp fun different same => by simp [same] at different⟩
  get?_toVariables map name := by
    ext value
    rw [OrderedMap.get?_eq_some_iff]
    exact Std.TreeMap.mem_toList_iff_getElem?_eq_some

theorem read_toVariables [Bindings β] (bindings : β) (name : String) :
    (toVariables bindings).read name = (lookup? bindings name).getD "" := by
  rw [Variables.read, OrderedMap.getD, get?_toVariables]

end Bindings

def Operand.varNames : Operand → List String
  | var name => [name]
  | _ => []

def Instruction.varNames (instruction : Instruction) : List String :=
  instruction.left.toList.flatMap Operand.varNames ++
    instruction.right.toList.flatMap Operand.varNames

def Code.varNames (code : Code) : List String :=
  code.toList.flatMap Instruction.varNames

namespace Machine

variable {vars other : Variables} {isMatch : String → String → Bool} {length : Nat}

theorem stringOperand_congr (machine : Machine) (operation : Operation) {operand : Option Operand}
    (same : ∀ name ∈ operand.toList.flatMap Operand.varNames, vars.read name = other.read name) :
    machine.stringOperand operation vars operand = machine.stringOperand operation other operand := by
  unfold stringOperand
  split
  · rfl
  · rename_i name
    rw [same name (by simp [Operand.varNames])]
  · rfl

theorem execute_congr (machine : Machine) {instruction : Instruction}
    (same : ∀ name ∈ instruction.varNames, vars.read name = other.read name) :
    machine.execute ⟨length, vars, isMatch⟩ instruction =
      machine.execute ⟨length, other, isMatch⟩ instruction := by
  have left (operation : Operation) := stringOperand_congr machine operation
    fun name member => same name (List.mem_append_left _ member)
  have right (operation : Operation) := stringOperand_congr machine operation
    fun name member => same name (List.mem_append_right _ member)
  have equal (operation : Operation) :
      machine.areEqual operation vars instruction.left instruction.right =
        machine.areEqual operation other instruction.left instruction.right := by
    unfold areEqual
    simp only [left, right]
  unfold execute
  simp only [left, right, equal]

theorem runFrom_congr (observe : σ → Event → σ) {code : Code}
    (same : ∀ name ∈ code.varNames, vars.read name = other.read name) (budget count : Nat)
    (machine : Machine) (seen : σ) :
    runFrom observe ⟨length, vars, isMatch⟩ code budget count machine seen =
      runFrom observe ⟨length, other, isMatch⟩ code budget count machine seen := by
  induction budget generalizing count machine seen with
  | zero => rfl
  | succ budget ih =>
    unfold runFrom
    cases fetched : code[machine.pc]? with
    | none => rfl
    | some instruction =>
      have executed : machine.execute ⟨length, vars, isMatch⟩ instruction =
          machine.execute ⟨length, other, isMatch⟩ instruction :=
        execute_congr machine fun name member => same name (List.mem_flatMap.mpr
          ⟨instruction, Array.mem_toList_iff.mpr (Array.mem_of_getElem? fetched), member⟩)
      dsimp only
      rw [executed]
      simp only [ih]

end Machine

namespace Code

/-- Bindings of whatever kinds that give the same text to each variable of the code, unbound ones
being empty, lead to the same machine after each number of instructions, and to the same end. -/
theorem run_eq_of_bindings [Bindings α] [Bindings β] (first : α) (second : β) (code : Code)
    (same : ∀ name ∈ code.varNames,
      (Bindings.lookup? first name).getD "" = (Bindings.lookup? second name).getD "")
    (isMatch : String → String → Bool) (budget : Nat) :
    code.run isMatch budget (Bindings.toVariables first) =
        code.run isMatch budget (Bindings.toVariables second) ∧
      code.tracedRun isMatch budget (Bindings.toVariables first) =
        code.tracedRun isMatch budget (Bindings.toVariables second) := by
  have reads (name : String) (member : name ∈ code.varNames) :
      (Bindings.toVariables first).read name = (Bindings.toVariables second).read name := by
    rw [Bindings.read_toVariables, Bindings.read_toVariables]
    exact same name member
  unfold run tracedRun observedRun
  exact ⟨congrArg Prod.fst (Machine.runFrom_congr _ reads budget 0 .start ()),
    by rw [Machine.runFrom_congr _ reads]⟩

theorem run_eq_of_bindings_kinds :
    let code : Code := #[.compare .isEqual 1 (.var "t") (.string "a"),
      .compare .contains 2 (.var "u") (.var "t"), .change .addScore "s" (.int 1),
      .jump .jumpIfTrue 0 1 0]
    let hashed : Std.HashMap String String := {("t", "a"), ("u", ""), ("v", "b")}
    let sorted : Std.TreeMap String String := {("t", "a"), ("w", "c")}
    ∀ budget, code.run (fun _ _ => false) budget (Bindings.toVariables hashed) =
      code.run (fun _ _ => false) budget (Bindings.toVariables sorted) := by
  intro code hashed sorted budget
  refine (run_eq_of_bindings hashed sorted code (fun name member => ?_) _ budget).1
  have names : code.varNames = ["t", "u", "t"] := rfl
  rw [names] at member
  simp only [List.mem_cons, List.not_mem_nil, or_false] at member
  rcases member with rfl | rfl | rfl <;>
    simp [hashed, sorted, Bindings.lookup?, Std.HashMap.getElem_insert]

end Code

end ScoringRules
