/-!
Values of a TOML document. A table remembers how it came about, which decides what may still be
added to it.
-/

namespace ScoringRules.Toml

inductive Origin where
  /-- By a header of its own. -/
  | header
  /-- By the header of a table inside of it. -/
  | implicit
  /-- By a dotted key. -/
  | dotted
  /-- As a value in braces. -/
  | inline
  deriving DecidableEq, Repr

inductive Item where
  | string (text : String)
  | integer (value : Int64)
  | float (literal : String)
  | boolean (value : Bool)
  /-- In its canonical spelling. -/
  | dateTime (text : String)
  | array (items : List Item)
  | table (origin : Origin) (entries : List (String × Item))
  /-- A table for each double-bracketed header. -/
  | tables (elements : List (List (String × Item)))
  deriving Repr

abbrev Table := List (String × Item)

namespace Table

def find? (table : Table) (key : String) : Option Item :=
  table.lookup key

/-- Changes the entry with a key, which is added at the end if there is none. -/
def put (table : Table) (key : String) (item : Item) : Table :=
  match table with
  | [] => [(key, item)]
  | entry :: rest => if entry.1 == key then (key, item) :: rest else entry :: put rest key item

def addNew? (table : Table) (key : String) (item : Item) : Option Table :=
  if (table.find? key).isSome then none else some (table ++ [(key, item)])

/-- Adds an entry by a dotted key. Tables on the way are made where there is none; the last one
must have been made by dotted keys, and the others by dotted keys or by headers of inner tables.
Elements of an array of tables are passed through at the last one. -/
def addDotted? (table : Table) : List String → String → Item → Option Table
  | [], key, item => table.addNew? key item
  | step :: path, key, item =>
    match table.find? step with
    | none => do
      return table.put step (.table .dotted (← addDotted? [] path key item))
    | some (.table .dotted entries) => do
      return table.put step (.table .dotted (← addDotted? entries path key item))
    | some (.table .implicit entries) =>
      if path.isEmpty then none
      else do return table.put step (.table .implicit (← addDotted? entries path key item))
    | some (.tables elements) =>
      match elements.getLast? with
      | some last =>
        if path.isEmpty then none
        else do
          return table.put step
            (.tables (elements.dropLast ++ [← addDotted? last path key item]))
      | none => none
    | some _ => none

/-- Changes the table that the keys of a header lead to. Tables on the way are made where there
is none; an array of tables leads to its last element. -/
def change? (change : Table → Option Table) (table : Table) : List String → Option Table
  | [] => change table
  | step :: path =>
    match table.find? step with
    | none => do return table.put step (.table .implicit (← change? change [] path))
    | some (.table .inline _) => none
    | some (.table origin entries) => do
      return table.put step (.table origin (← change? change entries path))
    | some (.tables elements) =>
      match elements.getLast? with
      | some last => do
        return table.put step (.tables (elements.dropLast ++ [← change? change last path]))
      | none => none
    | some _ => none

/-- Begins the table of a header, which may have been made only by headers of inner tables. -/
def begin? (table : Table) (key : String) : Option Table :=
  match table.find? key with
  | none => some (table ++ [(key, .table .header [])])
  | some (.table .implicit entries) => some (table.put key (.table .header entries))
  | some _ => none

def beginElement? (table : Table) (key : String) : Option Table :=
  match table.find? key with
  | none => some (table ++ [(key, .tables [[]])])
  | some (.tables elements) => some (table.put key (.tables (elements ++ [[]])))
  | some _ => none

end Table

end ScoringRules.Toml
