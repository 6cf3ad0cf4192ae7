import ScoringRules.Files.Reading

/-!
A directory as a value: files and directories by their relative paths. Directories that a path
leads through are there too.
-/

namespace ScoringRules

inductive DirectoryEntry where
  | file (content : ByteArray)
  | directory

abbrev Directory := List (List String × DirectoryEntry)

namespace Directory

def names (path : String) : List String :=
  (path.splitOn "/").filter fun name => name != "" && name != "."

def add (directory : Directory) (path : String) (entry : DirectoryEntry) : Directory :=
  directory ++ [(names path, entry)]

/-- What is at a place. A later entry replaces an earlier one. -/
def entry? (directory : Directory) (place : List String) : Option DirectoryEntry :=
  match directory.reverse.find? fun entry => entry.1 == place with
  | some entry => some entry.2
  | none =>
    if place.isEmpty || directory.any (fun entry => place.isPrefixOf entry.1) then
      some .directory
    else none

/-- The longest name of a file and the longest path, in bytes. -/
def nameLimit : Nat := 255

def pathLimit : Nat := 4095

/-- Follows names from a place, the last name of which comes first. Nothing is known of what is
outside the directory but that directories lead there. -/
def follow (directory : Directory) : (place : Option (List String)) → List String →
    Except FileError DirectoryEntry
  | none, [] => .ok .directory
  | none, name :: rest =>
    if name = "" ∨ name = "." ∨ name = ".." then follow directory none rest else .error .notFound
  | some place, [] =>
    match directory.entry? place.reverse with
    | some entry => .ok entry
    | none => .error .notFound
  | some place, name :: rest =>
    match directory.entry? place.reverse with
    | none => .error .notFound
    | some (.file _) => .error .notDirectory
    | some .directory =>
      if name = "" ∨ name = "." then follow directory (some place) rest
      else if name = ".." then
        match place with
        | [] => follow directory none rest
        | _ :: outer => follow directory (some outer) rest
      else if nameLimit < name.utf8ByteSize then .error .nameTooLong
      else follow directory (some (name :: place)) rest

def read (directory : Directory) (path : String) : Except FileError String :=
  if path.contains '\x00' then .error .nulInName
  else if path = "" then .error .notFound
  else if pathLimit < path.utf8ByteSize then .error .nameTooLong
  else do
    let start := if path.startsWith "/" then none else some []
    match ← follow directory start (path.splitOn "/") with
    | .file content => textOfBytes content
    | .directory => .error .isDirectory

end Directory

end ScoringRules
