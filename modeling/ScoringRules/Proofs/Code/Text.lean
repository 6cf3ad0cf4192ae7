import ScoringRules.Code.Instruction
import ScoringRules.Proofs.Text.Quoted

/-!
The text of operations and operands. It is never empty, ends in no blank, and shows which operand it
stands for.
-/

namespace ScoringRules

/-- A text that ends, and not in a blank. -/
def EndsDark (text : List Char) : Prop :=
  ∃ c, text.getLast? = some c ∧ c ≠ ' '

theorem endsDark_of_blank_notMem {text : List Char} (nonempty : text ≠ [])
    (absent : ' ' ∉ text) : EndsDark text := by
  have last := List.getLast_mem nonempty
  exact ⟨_, List.getLast?_eq_some_getLast nonempty, fun blank => absent (blank ▸ last)⟩

theorem endsDark_concat (text : List Char) {c : Char} (dark : c ≠ ' ') : EndsDark (text ++ [c]) :=
  ⟨c, List.getLast?_concat, dark⟩

namespace Operation

def all : List Operation :=
  [noop, isEqual, isNotEqual, isGreater, isGreaterOrEqual, isLess, isLessOrEqual, contains,
    doesNotContain, matches_, doesNotMatch, jumpIfFalse, jumpIfTrue, addScore, subScore, setScore,
    negate, exit]

theorem find_name (operation : Operation) :
    (all.find? fun other => other.name == operation.name) = some operation := by
  cases operation <;> decide

theorem name_injective : Function.Injective name := by
  intro operation other same
  have found := find_name operation
  rw [same, find_name other] at found
  exact (Option.some.inj found).symm

theorem isLower_of_mem_name {operation : Operation} {c : Char}
    (member : c ∈ operation.name.toList) : c.isLower = true := by
  have letters : operation.name.toList.all Char.isLower = true := by
    cases operation <;> rfl
  exact List.all_eq_true.mp letters c member

theorem blank_notMem_name (operation : Operation) : ' ' ∉ operation.name.toList :=
  fun inside => absurd (isLower_of_mem_name inside) (by decide)

theorem endsDark_name (operation : Operation) : EndsDark operation.name.toList :=
  endsDark_of_blank_notMem (by cases operation <;> decide) (blank_notMem_name operation)

end Operation

namespace Operand

def frontKind : List Char → OperandKind
  | '"' :: _ => .string
  | '/' :: _ => .regex
  | '$' :: _ => .scratch
  | 's' :: _ => .score
  | 'v' :: _ => .var
  | '-' :: '>' :: _ => .position
  | _ => .int

theorem frontKind_digit {c : Char} (digit : c.isDigit) (s : List Char) :
    frontKind (c :: s) = .int := by
  unfold frontKind
  split <;> simp_all [Char.isDigit]

theorem frontKind_minus_digit {c : Char} (digit : c.isDigit) (s : List Char) :
    frontKind ('-' :: c :: s) = .int := by
  unfold frontKind
  split <;> simp_all [Char.isDigit]

theorem frontKind_text (operand : Operand) (s : List Char) :
    frontKind (operand.text.toList ++ s) = operand.kind := by
  cases operand with
  | int value =>
    obtain ⟨n, shapes⟩ := toList_toString_int value.toInt
    obtain ⟨c, rest, digits⟩ := List.exists_cons_of_ne_nil (toList_toString_ne_nil n)
    have digit : c.isDigit := isDigit_of_mem_toString (digits ▸ List.mem_cons_self)
    rw [digits] at shapes
    rw [text]
    rcases shapes with ⟨shape, -⟩ | ⟨shape, -⟩
    · rw [shape]
      exact frontKind_digit digit _
    · rw [shape]
      exact frontKind_minus_digit digit _
  | string value => simp [text, quoted, frontKind, kind]
  | regex pattern => simp [text, frontKind, kind]
  | scratch register => simp [text, Register.text, frontKind, kind]
  | score name => simp [text, frontKind, kind]
  | position index => simp [text, frontKind, kind]
  | var name => simp [text, frontKind, kind]

theorem endsDark_text (operand : Operand) : EndsDark operand.text.toList := by
  cases operand with
  | int value =>
    exact endsDark_of_blank_notMem (toList_toString_int_ne_nil _) (blank_notMem_toString_int _)
  | scratch register =>
    refine endsDark_of_blank_notMem ?_ ?_
    · simp [text, Register.text]
    · simpa [text, Register.text] using blank_notMem_toString_nat register
  | position index =>
    refine endsDark_of_blank_notMem ?_ ?_
    · simp [text]
    · simpa [text] using blank_notMem_toString_nat index
  | string value =>
    rw [text, quoted, String.toList_ofList]
    exact endsDark_concat _ (by decide)
  | regex pattern =>
    rw [text, String.toList_append]
    exact endsDark_concat _ (by decide)
  | score name | var name =>
    rw [text, String.toList_append]
    exact endsDark_concat _ (by decide)

theorem text_injective : Function.Injective text := by
  intro operand other same
  have kinds : operand.kind = other.kind := by
    rw [← frontKind_text operand [], ← frontKind_text other [], same]
  cases operand <;> cases other <;> cases kinds
  case int value value' => exact congrArg int (Int64.toInt_inj.mp (toString_int_injective same))
  case string value value' =>
    rw [text, text] at same
    have texts : (quoted value).toList ++ [] = (quoted value').toList ++ [] := by rw [same]
    exact congrArg string (prefixCode_quoted trivial trivial texts).1
  case regex pattern pattern' =>
    exact congrArg regex ((String.append_right_inj _).mp ((String.append_left_inj _).mp same))
  case scratch register register' =>
    exact congrArg scratch (toString_nat_injective ((String.append_right_inj _).mp same))
  case score name name' =>
    exact congrArg score ((String.append_right_inj _).mp ((String.append_left_inj _).mp same))
  case position index index' =>
    exact congrArg position (toString_nat_injective ((String.append_right_inj _).mp same))
  case var name name' =>
    exact congrArg var ((String.append_right_inj _).mp ((String.append_left_inj _).mp same))

end Operand

end ScoringRules
