import ScoringRules.Toml.Document

/-!
Writing TOML. Each key and string gets the plainest form that holds it: bare, in quotes, literal,
on several lines, and escapes only where nothing else will do. As with reading, this stands for the
`toml` library, whose source is not with that of the program.
-/

namespace ScoringRules.Toml

def isControl (c : Char) : Bool :=
  !isPlain c

/-- A control character by its code point, in four capital hexadecimal digits. -/
def unicodeEscape (c : Char) : List Char :=
  let digits := (Nat.toDigits 16 c.toNat).map Char.toUpper
  ['\\', 'u'] ++ List.replicate (4 - digits.length) '0' ++ digits

def escapeChar (c : Char) : List Char :=
  match c with
  | '\x08' => ['\\', 'b']
  | '\t' => ['\\', 't']
  | '\n' => ['\\', 'n']
  | '\x0c' => ['\\', 'f']
  | '\r' => ['\\', 'r']
  | '\\' => ['\\', '\\']
  | c => if isControl c then unicodeEscape c else [c]

def basicForm (text : List Char) : List Char :=
  '"' :: text.flatMap (fun c => if c = '"' then ['\\', '"'] else escapeChar c) ++ ['"']

def literalForm (text : List Char) : List Char :=
  '\'' :: text ++ ['\'']

/-- The lines of a string; each third quote in a row, `quotes` of which stand before, is escaped,
and line breaks stay. -/
def escapeLines (quotes : Nat) : List Char → List Char
  | [] => []
  | c :: rest =>
    if c = '"' then
      if quotes = 2 then '\\' :: '"' :: escapeLines 0 rest else '"' :: escapeLines (quotes + 1) rest
    else if c = '\n' then '\n' :: escapeLines 0 rest
    else escapeChar c ++ escapeLines 0 rest

/-- A line break behind the opening quotes of a text that has one itself. -/
def openingBreak (text : List Char) : List Char :=
  if text.contains '\n' then ['\n'] else []

def basicLinesForm (text : List Char) : List Char :=
  ['"', '"', '"'] ++ openingBreak text ++ escapeLines 0 text ++ ['"', '"', '"']

def literalLinesForm (text : List Char) : List Char :=
  ['\'', '\'', '\''] ++ openingBreak text ++ text ++ ['\'', '\'', '\'']

def hasTriple (c : Char) (count : Nat) : List Char → Bool
  | [] => false
  | d :: rest =>
    if d = c then count = 2 || hasTriple c (count + 1) rest else hasTriple c 0 rest

def keyForm (key : String) : List Char :=
  let text := key.toList
  let controlled := text.any isControl
  if !text.isEmpty && text.all isBareChar then text
  else if !controlled && !text.contains '\\' && !text.contains '"' then basicForm text
  else if !controlled && !text.contains '\'' then literalForm text
  else basicForm text

def stringForm (value : String) : List Char :=
  let text := value.toList
  let broken := text.contains '\n'
  let controlled := text.any fun c => isControl c && c != '\n'
  if !controlled && !broken && !text.contains '\\' && !text.contains '"' then basicForm text
  else if !controlled && !broken && !text.contains '\'' then literalForm text
  else if !controlled && !text.contains '\\' && !hasTriple '"' 0 text then basicLinesForm text
  else if !controlled && !hasTriple '\'' 0 text then literalLinesForm text
  else if broken then basicLinesForm text
  else basicForm text

def integerForm (value : Int64) : List Char :=
  (toString value.toInt).toList

def entryLine (key : String) (form : List Char) : List Char :=
  keyForm key ++ [' ', '=', ' '] ++ form ++ ['\n']

def tableForm (name : String) (lines : List (List Char)) : List Char :=
  '[' :: name.toList ++ [']', '\n'] ++ lines.flatten

end ScoringRules.Toml
