import ScoringRules.Code.Instruction

/-!
Code as a table with borders: one row for each instruction, and each column as wide as its
widest cell, counted in characters.
-/

namespace ScoringRules

abbrev TableRow := List String

namespace Table

def headers : TableRow := ["POS", "OP", "RET", "OPERAND1", "OPERAND2"]

def row (index : Nat) (instruction : Instruction) : TableRow :=
  let columns := instruction.columns
  [toString index, columns.operation, columns.ret, columns.left, columns.right]

def rows (code : Code) : List TableRow :=
  code.toList.zipIdx.map fun (instruction, index) => row index instruction

def widths (rows : List TableRow) : List Nat :=
  rows.foldl (fun widths row => List.zipWith (fun width cell => max width cell.length) widths row)
    (headers.map String.length)

/-- Fills a cell with blanks on the right. This is the documented padding of a format width, taken
for every width; that some formatters refuse one above 65535 at run time is left aside. -/
def pad (width : Nat) (cell : String) : String :=
  cell ++ String.ofList (List.replicate (width - cell.length) ' ')

def border (widths : List Nat) : String :=
  String.join (widths.map fun width => "+" ++ String.ofList (List.replicate (width + 2) '-')) ++ "+"

def line (widths : List Nat) (row : TableRow) : String :=
  String.join (List.zipWith (fun width cell => "| " ++ pad width cell ++ " ") widths row) ++ "|"

end Table

def Code.table (code : Code) : String :=
  let rows := Table.rows code
  let widths := Table.widths rows
  let border := Table.border widths
  let lines := [border, Table.line widths Table.headers, border] ++
    rows.map (Table.line widths) ++ [border]
  String.join (lines.map (· ++ "\n"))

end ScoringRules
