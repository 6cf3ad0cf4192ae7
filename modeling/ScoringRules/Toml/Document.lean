import ScoringRules.Toml.DateTime

/-!
Reading a TOML document into its root table. This and the modules below it stand for the `toml`
library that the program calls, whose source is not with its own.
-/

namespace ScoringRules.Toml

def isBareChar (c : Char) : Bool :=
  c.isAlphanum || c == '_' || c == '-'

def keyPart? (text : List Char) : Option (String × List Char) :=
  match text with
  | '"' :: rest => do
    let (name, rest) ← basicString? rest
    return (String.ofList name, rest)
  | '\'' :: rest => do
    let (name, rest) ← literalString? rest
    return (String.ofList name, rest)
  | _ =>
    let name := text.takeWhile isBareChar
    if name.isEmpty then none else some (String.ofList name, text.drop name.length)

def key? : (limit : Nat) → List Char → Option (List String × List Char)
  | 0, _ => none
  | limit + 1, text => do
    let (part, rest) ← keyPart? (skipBlanks text)
    match skipBlanks rest with
    | '.' :: rest =>
      let (parts, rest) ← key? limit rest
      return (part :: parts, rest)
    | rest => return ([part], rest)

/-- Keys have fewer than 80 parts, and values stand in fewer than 80 others. -/
def depthLimit : Nat := 79

def splitKey? (key : List String) : Option (List String × String) := do
  return (key.dropLast, ← key.getLast?)

/-- Items of an array behind its bracket, at most `limit` of them. The last one may be followed by
a comma. -/
def arrayItems? (value? : List Char → Option (Item × List Char)) :
    (limit : Nat) → List Char → Option (List Item × List Char)
  | 0, _ => none
  | limit + 1, text =>
    match skipBreaks false text with
    | ']' :: rest => some ([], rest)
    | text => do
      let (item, rest) ← value? text
      match skipBreaks false rest with
      | ',' :: rest =>
        let (items, rest) ← arrayItems? value? limit rest
        return (item :: items, rest)
      | ']' :: rest => return ([item], rest)
      | _ => none

def keyValue? (value? : List Char → Option (Item × List Char)) (text : List Char) :
    Option ((List String × Item) × List Char) := do
  let (key, rest) ← key? depthLimit text
  let rest ← expectChar? '=' rest
  let (item, rest) ← value? (skipBlanks rest)
  return ((key, item), skipBlanks rest)

def inlineEntries? (value? : List Char → Option (Item × List Char)) :
    (limit : Nat) → Table → List Char → Option (Table × List Char)
  | 0, _, _ => none
  | limit + 1, table, text => do
    let ((key, item), rest) ← keyValue? value? text
    let (path, last) ← splitKey? key
    let table ← table.addDotted? path last item
    match rest with
    | ',' :: rest => inlineEntries? value? limit table rest
    | '\x7d' :: rest => return (table, rest)
    | _ => none

def value? : (depth : Nat) → List Char → Option (Item × List Char)
  | depth, text =>
    match text with
    | [] => none
    | '[' :: rest =>
      match depth with
      | 0 => none
      | depth + 1 => do
        let (items, rest) ← arrayItems? (value? depth) (rest.length + 1) rest
        return (.array items, rest)
    | '\x7b' :: rest =>
      match depth with
      | 0 => none
      | depth + 1 =>
        match skipBlanks rest with
        | '\x7d' :: rest => some (.table .inline [], rest)
        | rest => do
          let (table, rest) ← inlineEntries? (value? depth) (rest.length + 1) [] rest
          return (.table .inline table, rest)
    | 't' :: 'r' :: 'u' :: 'e' :: rest => some (.boolean true, rest)
    | 'f' :: 'a' :: 'l' :: 's' :: 'e' :: rest => some (.boolean false, rest)
    | c :: _ =>
      if c = '"' ∨ c = '\'' then do
        let (text, rest) ← string? text
        return (.string (String.ofList text), rest)
      else dateTime? text <|> number? text

/-- The rest of a document; `header` leads to the table that entries are added to. -/
def entries? : (limit : Nat) → (root : Table) → (header : List String) → List Char → Option Table
  | 0, _, _, _ => none
  | limit + 1, root, header, text =>
    match skipBlanks text with
    | [] => some root
    | '#' :: rest => do entries? limit root header (← lineEnd? ('#' :: rest))
    | '[' :: '[' :: rest => do
      let (key, rest) ← key? depthLimit rest
      let rest ← expectChar? ']' rest
      let rest ← lineEnd? (← expectChar? ']' rest)
      let (path, last) ← splitKey? key
      let root ← root.change? (·.beginElement? last) path
      entries? limit root key rest
    | '[' :: rest => do
      let (key, rest) ← key? depthLimit rest
      let rest ← lineEnd? (← expectChar? ']' rest)
      let (path, last) ← splitKey? key
      let root ← root.change? (·.begin? last) path
      entries? limit root key rest
    | text =>
      match lineBreak? text with
      | some rest => entries? limit root header rest
      | none => do
        let ((key, item), rest) ← keyValue? (value? depthLimit) text
        let rest ← lineEnd? rest
        let (path, last) ← splitKey? key
        let root ← root.change? (·.addDotted? path last item) header
        entries? limit root header rest

def document? (text : String) : Option Table :=
  let text :=
    match text.toList with
    | '\ufeff' :: rest => rest
    | text => text
  entries? (text.length + 1) [] [] text

end ScoringRules.Toml
