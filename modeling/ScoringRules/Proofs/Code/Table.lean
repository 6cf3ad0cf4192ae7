import Mathlib.Data.List.Forall2
import Mathlib.Data.List.DropRight
import ScoringRules.Code.Table
import ScoringRules.Proofs.Code.Text

/-!
The table of a program determines the program. Its first line gives the widths of the columns; these
cut the other lines, line breaks in cells or not; and a cell is what remains without the blanks at
its end.
-/

namespace ScoringRules

namespace Table

theorem toList_border (widths : List Nat) : (border widths).toList =
    '+' :: widths.flatMap fun width => List.replicate (width + 2) '-' ++ ['+'] := by
  rw [border, String.toList_append, String.toList_join, List.flatMap_map]
  induction widths with
  | nil => rfl
  | cons width rest ih => simpa [String.toList_append] using ih

theorem prefixCode_border :
    PrefixCode (fun _ => True) fun widths => (border widths).toList ++ ['\n'] := by
  have run : PrefixCode (fun _ : Nat => True) fun width =>
      List.replicate (width + 2) '-' ++ ['+'] :=
    .terminated (fun width _ => by simp) fun width other _ _ same => by
      simpa using congrArg List.length same
  have starts (width : Nat) (_ : True) :
      ∃ c, (List.replicate (width + 2) '-' ++ ['+']).head? = some c ∧ c ≠ '\n' :=
    ⟨'-', rfl, by decide⟩
  have whole := (run.flatMap '\n' starts).framed ['+'] []
  intro widths others _ _ s t same
  simp only [toList_border, List.cons_append] at same
  simp only [List.append_nil, List.cons_append] at whole
  obtain ⟨rfl, behind⟩ := whole (fun _ _ => trivial) (fun _ _ => trivial) same
  exact ⟨rfl, behind⟩

def Fits (cell : String) (width : Nat) : Prop :=
  cell.toList.getLast? ≠ some ' ' ∧ cell.length ≤ width

theorem toList_pad (width : Nat) (cell : String) :
    (pad width cell).toList = cell.toList ++ List.replicate (width - cell.length) ' ' := by
  rw [pad, String.toList_append, String.toList_ofList]

theorem rdropWhile_pad {width : Nat} {cell : String} (fits : Fits cell width) :
    (pad width cell).toList.rdropWhile (· == ' ') = cell.toList := by
  rw [toList_pad]
  induction width - cell.length with
  | zero =>
    rw [List.replicate_zero, List.append_nil, List.rdropWhile_eq_self_iff]
    intro nonempty blank
    refine fits.1 ?_
    rw [List.getLast?_eq_some_getLast nonempty, beq_iff_eq.mp blank]
  | succ count ih =>
    rw [List.replicate_succ', ← List.append_assoc, List.rdropWhile_concat_pos _ _ _ rfl, ih]

theorem length_pad {width : Nat} {cell : String} (short : cell.length ≤ width) :
    (pad width cell).toList.length = width := by
  rw [toList_pad, List.length_append, List.length_replicate, String.length_toList]
  exact Nat.add_sub_cancel' short

theorem prefixCode_pad (width : Nat) :
    PrefixCode (Fits · width) fun cell => (pad width cell).toList := by
  refine .of_length (fun cell fits => length_pad fits.2) fun cell other fits fitsToo same => ?_
  rw [← String.toList_inj, ← rdropWhile_pad fits, ← rdropWhile_pad fitsToo, same]

def cells (widths : List Nat) (row : TableRow) : List Char :=
  (List.zipWith (fun width cell => "| " ++ pad width cell ++ " ") widths row).flatMap String.toList

theorem cells_cons (width : Nat) (widths : List Nat) (cell : String) (row : TableRow) :
    cells (width :: widths) (cell :: row) =
      ['|', ' '] ++ (pad width cell).toList ++ [' '] ++ cells widths row := by
  simp [cells, String.toList_append]

theorem toList_line (widths : List Nat) (row : TableRow) :
    (line widths row).toList = cells widths row ++ ['|'] := by
  rw [line, String.toList_append, String.toList_join, cells]
  rfl

/-- In columns of known widths a row is known by its text. -/
theorem prefixCode_cells (widths : List Nat) :
    PrefixCode (List.Forall₂ Fits · widths) (cells widths) := by
  induction widths with
  | nil =>
    intro row other fits fitsToo s t same
    cases fits
    cases fitsToo
    exact ⟨rfl, same⟩
  | cons width widths ih =>
    intro row other fits fitsToo s t same
    cases fits with | cons here there =>
    cases fitsToo with | cons hereToo thereToo =>
    rw [cells_cons, cells_cons, List.append_assoc (_ ++ [' ']), List.append_assoc (_ ++ [' '])]
      at same
    obtain ⟨rfl, behind⟩ := (prefixCode_pad width).framed ['|', ' '] [' '] here hereToo same
    obtain ⟨rfl, rest⟩ := ih there thereToo behind
    exact ⟨rfl, rest⟩

theorem prefixCode_line (widths : List Nat) :
    PrefixCode (List.Forall₂ Fits · widths) fun row => (line widths row).toList ++ ['\n'] := by
  have whole := (prefixCode_cells widths).framed [] ['|', '\n']
  intro row other fits fitsToo s t same
  simp only [toList_line, List.append_assoc, List.singleton_append] at same
  exact whole fits fitsToo (by simpa using same)

theorem head?_line {widths : List Nat} {row : TableRow} (fits : List.Forall₂ Fits row widths) :
    ∃ c, ((line widths row).toList ++ ['\n']).head? = some c ∧ c ≠ '+' := by
  refine ⟨'|', ?_, by decide⟩
  rw [toList_line]
  cases fits with
  | nil => rfl
  | cons here there =>
    rw [cells_cons]
    rfl

def Covers (widths : List Nat) (row : TableRow) : Prop :=
  List.Forall₂ (fun cell width => cell.length ≤ width) row widths

def widen (widths : List Nat) (row : TableRow) : List Nat :=
  List.zipWith (fun width cell => max width cell.length) widths row

theorem length_widen {widths : List Nat} {row : TableRow} (even : row.length = widths.length) :
    (widen widths row).length = widths.length := by
  rw [widen, List.length_zipWith, even, Nat.min_self]

theorem covers_widen {widths : List Nat} {row : TableRow} (even : row.length = widths.length) :
    Covers (widen widths row) row := by
  induction widths generalizing row with
  | nil =>
    rw [List.length_eq_zero_iff.mp even]
    exact .nil
  | cons width widths ih =>
    obtain ⟨cell, rest, rfl⟩ := List.exists_cons_of_length_eq_add_one even
    exact .cons (Nat.le_max_right _ _) (ih (Nat.succ.inj even))

theorem Covers.widen {widths : List Nat} {row other : TableRow} (covers : Covers widths row)
    (even : other.length = widths.length) : Covers (widen widths other) row := by
  induction covers generalizing other with
  | nil =>
    rw [List.length_eq_zero_iff.mp even]
    exact .nil
  | cons here there ih =>
    obtain ⟨cell, rest, rfl⟩ := List.exists_cons_of_length_eq_add_one even
    exact .cons (Nat.le_trans here (Nat.le_max_left _ _)) (ih (Nat.succ.inj even))

theorem Covers.foldl_widen {widths : List Nat} {row : TableRow} (covers : Covers widths row)
    {rows : List TableRow} (even : ∀ other ∈ rows, other.length = widths.length) :
    Covers (rows.foldl Table.widen widths) row := by
  induction rows generalizing widths with
  | nil => exact covers
  | cons first rest ih =>
    obtain ⟨here, there⟩ := List.forall_mem_cons.mp even
    exact ih (covers.widen here) fun other member =>
      (there other member).trans (length_widen here).symm

theorem covers_foldl_widen {widths : List Nat} {rows : List TableRow}
    (even : ∀ other ∈ rows, other.length = widths.length) {row : TableRow} (member : row ∈ rows) :
    Covers (rows.foldl widen widths) row := by
  induction rows generalizing widths with
  | nil => cases member
  | cons first rest ih =>
    obtain ⟨here, there⟩ := List.forall_mem_cons.mp even
    have evenRest : ∀ other ∈ rest, other.length = (widen widths first).length :=
      fun other member => (there other member).trans (length_widen here).symm
    rcases List.mem_cons.mp member with rfl | later
    · exact (covers_widen here).foldl_widen evenRest
    · exact ih evenRest later

end Table

namespace Instruction

theorem operandCell_injective :
    Function.Injective fun operand : Option Operand => (operand.map Operand.text).getD "" := by
  have nonempty (operand : Operand) : operand.text ≠ "" := by
    intro empty
    obtain ⟨c, last, -⟩ := Operand.endsDark_text operand
    rw [empty] at last
    cases last
  intro operand other same
  cases operand <;> cases other
  case none.none => rfl
  case none.some other => exact absurd same.symm (nonempty other)
  case some.none operand => exact absurd same (nonempty operand)
  case some.some operand other => exact congrArg some (Operand.text_injective same)

theorem retCell_injective :
    Function.Injective fun ret : Register => if ret = 0 then "" else Register.text ret := by
  have nonempty (ret : Register) : Register.text ret ≠ "" := by simp [Register.text]
  intro ret other same
  dsimp only at same
  split at same <;> split at same
  · exact ‹ret = 0›.trans ‹other = 0›.symm
  · exact absurd same.symm (nonempty other)
  · exact absurd same (nonempty ret)
  · exact toString_nat_injective ((String.append_right_inj _).mp same)

theorem eq_of_columns {instruction other : Instruction}
    (operations : instruction.columns.operation = other.columns.operation)
    (rets : instruction.columns.ret = other.columns.ret)
    (lefts : instruction.columns.left = other.columns.left)
    (rights : instruction.columns.right = other.columns.right) : instruction = other := by
  obtain ⟨operation, ret, left, right⟩ := instruction
  obtain ⟨operation', ret', left', right'⟩ := other
  obtain rfl := Operation.name_injective operations
  obtain rfl := retCell_injective rets
  obtain rfl := operandCell_injective lefts
  obtain rfl := operandCell_injective rights
  rfl

end Instruction

namespace Table

theorem row_injective :
    Function.Injective fun entry : Instruction × Nat => row entry.2 entry.1 := by
  rintro ⟨instruction, index⟩ ⟨other, index'⟩ same
  simp only [row, List.cons.injEq, and_true] at same
  obtain ⟨indices, operations, rets, lefts, rights⟩ := same
  obtain rfl := toString_nat_injective indices
  obtain rfl := Instruction.eq_of_columns operations rets lefts rights
  rfl

theorem rows_injective : Function.Injective rows := by
  intro code other same
  have entries := List.map_injective_iff.mpr row_injective same
  have instructions := congrArg (List.map Prod.fst) entries
  rw [List.zipIdx_map_fst, List.zipIdx_map_fst] at instructions
  exact Array.toList_inj.mp instructions

theorem getLast?_of_mem_row {index : Nat} {instruction : Instruction} {cell : String}
    (member : cell ∈ row index instruction) : cell.toList.getLast? ≠ some ' ' := by
  have dark {text : List Char} (dark : EndsDark text) : text.getLast? ≠ some ' ' := by
    obtain ⟨c, last, notBlank⟩ := dark
    rw [last]
    exact fun same => notBlank (Option.some.inj same)
  have operandCell (operand : Option Operand) :
      ((operand.map Operand.text).getD "").toList.getLast? ≠ some ' ' := by
    cases operand with
    | none => nofun
    | some operand => exact dark (Operand.endsDark_text operand)
  simp only [row, List.mem_cons, List.not_mem_nil, or_false] at member
  rcases member with rfl | rfl | rfl | rfl | rfl
  · exact dark (endsDark_of_blank_notMem (toList_toString_ne_nil index)
      (blank_notMem_toString_nat index))
  · exact dark (Operation.endsDark_name _)
  · dsimp only [Instruction.columns]
    split
    · nofun
    · exact dark (Operand.endsDark_text (.scratch instruction.ret))
  · exact operandCell _
  · exact operandCell _

theorem length_of_mem_rows {code : Code} {row : TableRow} (member : row ∈ rows code) :
    row.length = headers.length := by
  obtain ⟨_, -, rfl⟩ := List.mem_map.mp member
  rfl

theorem covers_row {code : Code} {row : TableRow} (member : row ∈ rows code) :
    Covers (widths (rows code)) row :=
  covers_foldl_widen (fun _ => length_of_mem_rows) member

theorem fits_row {code : Code} {row : TableRow} (member : row ∈ rows code) :
    List.Forall₂ Fits row (widths (rows code)) := by
  have covers := covers_row member
  obtain ⟨⟨instruction, index⟩, -, rfl⟩ := List.mem_map.mp member
  exact (List.forall₂_and_left _ _).mpr ⟨fun cell inside => getLast?_of_mem_row inside, covers⟩

end Table

namespace Code

open Table

theorem toList_table (code : Code) : code.table.toList =
    ((border (widths (rows code))).toList ++ ['\n']) ++
      ((line (widths (rows code)) headers).toList ++ ['\n'] ++
        ((border (widths (rows code))).toList ++ ['\n']) ++
      ((rows code).flatMap (fun row => (line (widths (rows code)) row).toList ++ ['\n']) ++
        ((border (widths (rows code))).toList ++ ['\n']))) := by
  simp [table, String.toList_join, List.flatMap_map]

/-- Two programs have the same table only if they are the same. -/
theorem table_inj {code other : Code} : code.table = other.table ↔ code = other := by
  refine ⟨fun same => rows_injective ?_, congrArg table⟩
  have texts : code.table.toList = other.table.toList := congrArg String.toList same
  rw [toList_table, toList_table] at texts
  obtain ⟨widths, behind⟩ := prefixCode_border trivial trivial texts
  have fits : ∀ row ∈ rows code, List.Forall₂ Fits row (Table.widths (rows other)) :=
    fun _ member => widths ▸ fits_row member
  -- Lines start with a bar, and the last border with a corner.
  obtain ⟨rest, corner⟩ : ∃ rest, (border (Table.widths (rows other))).toList ++ ['\n'] =
      ['+'] ++ rest := ⟨_, by rw [toList_border]; rfl⟩
  have lines := (prefixCode_line (Table.widths (rows other))).flatMap '+' fun _ => head?_line
  rw [widths, List.append_cancel_left_eq, corner, ← List.append_assoc,
    ← List.append_assoc] at behind
  exact (lines fits (fun _ => fits_row) behind).1

end Code

end ScoringRules
