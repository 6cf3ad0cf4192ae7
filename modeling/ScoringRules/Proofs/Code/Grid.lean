import ScoringRules.Pattern.Basic
import ScoringRules.Proofs.Code.Names
import ScoringRules.Proofs.Code.Patterns
import ScoringRules.Proofs.Code.Table

/-!
The table of a program as a grid: lines that are all equally wide, one for each instruction and four
around them. Strings are written with their line feeds escaped and names have none, but patterns are
written as they are, so a line feed in a pattern breaks the row that it stands in.
-/

namespace ScoringRules

/-- The text consists of as many lines, all of which are equally wide. -/
def IsGrid (text : String) (height : Nat) : Prop :=
  ∃ lines : List String, text = String.join (lines.map (· ++ "\n")) ∧ lines.length = height ∧
    ∃ width, ∀ line ∈ lines, '\n' ∉ line.toList ∧ line.length = width

theorem count_newline_join (lines : List String) :
    (String.join (lines.map (· ++ "\n"))).toList.count '\n' =
      (lines.map fun line => line.toList.count '\n').sum + lines.length := by
  induction lines with
  | nil => rfl
  | cons first rest ih =>
    rw [List.map_cons, String.join_cons, String.toList_append, String.toList_append,
      List.count_append, List.count_append, ih, List.map_cons, List.sum_cons, List.length_cons]
    change _ + 1 + _ = _
    omega

theorem count_newline_join_of_unbroken {lines : List String}
    (unbroken : ∀ line ∈ lines, '\n' ∉ line.toList) :
    (String.join (lines.map (· ++ "\n"))).toList.count '\n' = lines.length := by
  rw [count_newline_join, Nat.add_eq_right, List.sum_eq_zero_iff]
  simpa [List.count_eq_zero] using unbroken

theorem isGrid_join_iff {lines : List String} {width : Nat}
    (even : ∀ line ∈ lines, line.length = width) :
    IsGrid (String.join (lines.map (· ++ "\n"))) lines.length ↔
      ∀ line ∈ lines, '\n' ∉ line.toList := by
  constructor
  · -- A grid has no other line feeds than those that end its lines, so none is left for these.
    rintro ⟨others, same, height, _, unbroken⟩
    have counts := count_newline_join lines
    rw [same, count_newline_join_of_unbroken fun line inside => (unbroken line inside).1, height,
      Nat.right_eq_add, List.sum_eq_zero_iff] at counts
    simpa [List.count_eq_zero] using counts
  · intro unbroken
    exact ⟨lines, rfl, rfl, width, fun line inside => ⟨unbroken line inside, even line inside⟩⟩

namespace Table

/-- The texts that the table is made of. A cell may break one into several lines. -/
def lines (code : Code) : List String :=
  let widths := widths (rows code)
  [border widths, line widths headers, border widths] ++ (rows code).map (line widths) ++
    [border widths]

theorem length_lines (code : Code) : (lines code).length = code.size + 4 := by
  simp [lines, rows]

def breadth (widths : List Nat) : Nat :=
  (widths.map (· + 3)).sum + 1

theorem length_border (widths : List Nat) : (border widths).length = breadth widths := by
  have column (width : Nat) : (List.replicate (width + 2) '-' ++ ['+']).length = width + 3 := by
    rw [List.length_append, List.length_replicate, List.length_singleton]
  rw [← String.length_toList, toList_border, List.length_cons, List.length_flatMap, breadth]
  simp only [column]

theorem length_cells {widths : List Nat} {row : TableRow} (covers : Covers widths row) :
    (cells widths row).length = (widths.map (· + 3)).sum := by
  induction covers with
  | nil => rfl
  | cons here there ih =>
    rw [cells_cons, List.length_append, List.length_append, List.length_append, length_pad here,
      ih, List.map_cons, List.sum_cons]
    change 2 + _ + 1 + _ = _
    omega

theorem length_line {widths : List Nat} {row : TableRow} (covers : Covers widths row) :
    (line widths row).length = breadth widths := by
  rw [← String.length_toList, toList_line, List.length_append, length_cells covers]
  rfl

theorem covers_headers (code : Code) : Covers (widths (rows code)) headers := by
  have start : Covers (headers.map String.length) headers :=
    List.forall₂_map_right_iff.mpr (List.forall₂_same.mpr fun _ _ => Nat.le_refl _)
  exact start.foldl_widen fun _ => length_of_mem_rows

theorem length_of_mem_lines {code : Code} {text : String} (member : text ∈ lines code) :
    text.length = breadth (widths (rows code)) := by
  simp only [lines, List.mem_append, List.mem_cons, List.not_mem_nil, or_false,
    List.mem_map] at member
  rcases member with ((rfl | rfl | rfl) | ⟨row, inside, rfl⟩) | rfl
  · exact length_border _
  · exact length_line (covers_headers code)
  · exact length_border _
  · exact length_line (covers_row inside)
  · exact length_border _

theorem newline_notMem_border (widths : List Nat) : '\n' ∉ (border widths).toList := by
  simp [toList_border]

theorem newline_notMem_line_iff {widths : List Nat} {row : TableRow} (covers : Covers widths row) :
    '\n' ∉ (line widths row).toList ↔ ∀ cell ∈ row, '\n' ∉ cell.toList := by
  rw [toList_line]
  induction covers with
  | nil => simp [cells]
  | cons here there ih => simpa [cells_cons, toList_pad] using fun _ => ih

end Table

theorem newline_notMem_codePointEscape (c : Char) : '\n' ∉ codePointEscape c := by
  have digits : '\n' ∉ Nat.toDigits 16 c.toNat := by
    intro inside
    obtain ⟨value, below, same⟩ := exists_of_mem_toDigits (by decide) inside
    have noFeed : ∀ d < 16, '\n' ≠ Nat.digitChar d := by decide
    exact noFeed value below same
  simp [codePointEscape, digits]

theorem newline_notMem_quotedChar (c : Char) : '\n' ∉ quotedChar c := by
  unfold quotedChar
  split
  case h_7 _ _ _ _ feed _ _ =>
    split
    · simpa using Ne.symm feed
    · exact newline_notMem_codePointEscape c
  all_goals decide

theorem newline_notMem_quoted (text : String) : '\n' ∉ (quoted text).toList := by
  simp [quoted, newline_notMem_quotedChar]

namespace Operand

theorem newline_mem_text_iff {operand : Operand}
    (isName : ∀ name ∈ operand.names, IsName name.toList) :
    '\n' ∈ operand.text.toList ↔ ∃ pattern, operand = .regex pattern ∧ '\n' ∈ pattern.toList := by
  cases operand with
  | int value => simpa [text] using notMem_toString_int rfl (by decide) _
  | string value => simpa [text] using newline_notMem_quoted value
  | regex pattern => simp [text]
  | scratch register => simpa [text, Register.text] using notMem_toString_nat rfl register
  | position index => simpa [text] using notMem_toString_nat rfl index
  | score name | var name =>
    have absent : '\n' ∉ name.toList :=
      (isName name (List.mem_singleton_self name)).notMem (by decide)
    simpa [text] using absent

end Operand

theorem Instruction.names_eq_flatMap (instruction : Instruction) :
    instruction.names = instruction.operands.flatMap Operand.names :=
  List.flatMap_append.symm

namespace Table

theorem newline_notMem_row_iff {index : Nat} {instruction : Instruction} :
    (∀ cell ∈ row index instruction, '\n' ∉ cell.toList) ↔
      ∀ operand ∈ instruction.operands, '\n' ∉ operand.text.toList := by
  have indexCell : '\n' ∉ (toString index).toList := notMem_toString_nat rfl index
  have operationCell : '\n' ∉ instruction.operation.name.toList := fun inside =>
    absurd (Operation.isLower_of_mem_name inside) (by decide)
  have retCell : '\n' ∉ instruction.columns.ret.toList := by
    unfold Instruction.columns
    split
    · exact List.not_mem_nil
    · simpa [Register.text] using notMem_toString_nat rfl instruction.ret
  have operandCell (operand : Option Operand) :
      '\n' ∉ ((operand.map Operand.text).getD "").toList ↔
        ∀ shown ∈ operand.toList, '\n' ∉ shown.text.toList := by
    cases operand <;> simp
  rw [Instruction.operands, List.forall_mem_append, ← operandCell, ← operandCell]
  simp only [row, List.forall_mem_cons]
  constructor
  · rintro ⟨-, -, -, left, right, -⟩
    exact ⟨left, right⟩
  · rintro ⟨left, right⟩
    exact ⟨indexCell, operationCell, retCell, left, right, List.forall_mem_nil _⟩

theorem newline_notMem_lines_iff (code : Code) : (∀ text ∈ lines code, '\n' ∉ text.toList) ↔
    ∀ instruction ∈ code, ∀ operand ∈ instruction.operands, '\n' ∉ operand.text.toList := by
  have header : '\n' ∉ (line (widths (rows code)) headers).toList :=
    (newline_notMem_line_iff (covers_headers code)).mpr (by decide)
  have border := newline_notMem_border (widths (rows code))
  have body : (∀ row ∈ rows code, '\n' ∉ (line (widths (rows code)) row).toList) ↔
      ∀ instruction ∈ code, ∀ operand ∈ instruction.operands, '\n' ∉ operand.text.toList := by
    constructor
    · intro unbroken instruction member
      obtain ⟨index, fetched⟩ := Array.mem_iff_getElem?.mp member
      have inside : row index instruction ∈ rows code :=
        List.mem_map.mpr ⟨(instruction, index), Code.mem_zipIdx_toList.mpr fetched, rfl⟩
      exact newline_notMem_row_iff.mp
        ((newline_notMem_line_iff (covers_row inside)).mp (unbroken _ inside))
    · intro unbroken shown inside
      refine (newline_notMem_line_iff (covers_row inside)).mpr ?_
      obtain ⟨⟨instruction, index⟩, member, rfl⟩ := List.mem_map.mp inside
      exact newline_notMem_row_iff.mpr
        (unbroken instruction (Array.mem_of_getElem? (Code.mem_zipIdx_toList.mp member)))
  rw [← body, lines, List.forall_mem_append, List.forall_mem_append, List.forall_mem_map]
  simp [header, border]

end Table

namespace Code

open Table

theorem table_eq_join (code : Code) :
    code.table = String.join ((lines code).map (· ++ "\n")) :=
  rfl

theorem isGrid_iff_operands (code : Code) : IsGrid code.table (code.size + 4) ↔
    ∀ instruction ∈ code, ∀ operand ∈ instruction.operands, '\n' ∉ operand.text.toList := by
  rw [table_eq_join, ← length_lines, isGrid_join_iff fun _ => length_of_mem_lines,
    newline_notMem_lines_iff]

variable {accepts : String → Bool} {source : String} {code : Code}

/-- The table of a compiled source is a grid with a row for each instruction, if and only if no
pattern of the source has a line feed in it. -/
theorem isGrid_table_iff (compiled : compile accepts source = .ok code) :
    ∃ tokens, (Cursor.ofString source).tokenize.1 = .ok tokens ∧
      (IsGrid code.table (code.size + 4) ↔ ∀ token ∈ tokens, ∀ pattern,
        token.kind = .regex pattern → '\n' ∉ pattern.toList) := by
  obtain ⟨tokens, rules, reads, generated⟩ := reads_of_compile compiled
  refine ⟨tokens, reads.1, (isGrid_iff_operands code).trans ⟨?_, ?_⟩⟩
  · intro unbroken token inside pattern same feed
    obtain ⟨instruction, member, operand⟩ :=
      (exists_operand_iff_token reads generated).mpr ⟨token, inside, same⟩
    refine unbroken instruction member _ operand ?_
    simp [Operand.text, feed]
  · intro unbroken instruction member operand inside feed
    have isName : ∀ name ∈ operand.names, IsName name.toList := fun name named =>
      isName_of_compile compiled member (Instruction.names_eq_flatMap instruction ▸
        List.mem_flatMap.mpr ⟨operand, inside, named⟩)
    obtain ⟨pattern, rfl, within⟩ := (Operand.newline_mem_text_iff isName).mp feed
    obtain ⟨token, listed, same⟩ :=
      (exists_operand_iff_token reads generated).mp ⟨instruction, member, inside⟩
    exact unbroken token listed pattern same within

theorem isGrid_table_iff_escapes :
    ∃ code, compile Pattern.accepts "when \"x\ny\" matches /x\\ny/ then exit done" = .ok code ∧
      code.size = 4 ∧ IsGrid code.table 8 := by
  have compiled : compile Pattern.accepts "when \"x\ny\" matches /x\\ny/ then exit done" =
      .ok #[.compare .matches_ 1 (.string "x\ny") (.regex "x\\ny"), .jump .jumpIfFalse 0 1 3,
        .plain .exit, .plain .noop] := by cbv
  have lexes : (Cursor.ofString "when \"x\ny\" matches /x\\ny/ then exit done").tokenize.1 =
      .ok [⟨.keyword .when, ⟨0, 1, 1⟩⟩, ⟨.string "x\ny", ⟨5, 1, 6⟩⟩,
        ⟨.keyword .matches_, ⟨11, 2, 4⟩⟩, ⟨.regex "x\\ny", ⟨19, 2, 12⟩⟩,
        ⟨.keyword .then_, ⟨26, 2, 19⟩⟩, ⟨.keyword .exit, ⟨31, 2, 24⟩⟩,
        ⟨.keyword .done, ⟨36, 2, 29⟩⟩, ⟨.endOfInput, ⟨40, 2, 33⟩⟩] := by cbv
  obtain ⟨tokens, again, grid⟩ := isGrid_table_iff compiled
  obtain rfl := Except.ok.inj (lexes.symm.trans again)
  exact ⟨_, compiled, rfl, grid.mpr (by simp)⟩

/-- A line feed that stands in a pattern breaks the row of the comparison. -/
theorem not_isGrid_table_lineFeed :
    ∃ code, compile Pattern.accepts "when var(a) matches /x\ny/ then done" = .ok code ∧
      code.size = 3 ∧ ¬ IsGrid code.table 7 := by
  have compiled : compile Pattern.accepts "when var(a) matches /x\ny/ then done" =
      .ok #[.compare .matches_ 1 (.var "a") (.regex "x\ny"), .jump .jumpIfFalse 0 1 2,
        .plain .noop] := by cbv
  refine ⟨_, compiled, rfl, fun grid => ?_⟩
  have unbroken := (isGrid_iff_operands _).mp grid _ (Array.mem_of_getElem? (i := 0) rfl)
    (.regex "x\ny") (by decide)
  exact unbroken (by decide)

end Code

end ScoringRules
