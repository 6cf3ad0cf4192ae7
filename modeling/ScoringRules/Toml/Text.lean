/-!
Blanks, comments, line ends and strings of TOML. A function that reads takes the text from where
it reads and gives what it read with the rest; it gives nothing where the text is malformed.
-/

namespace ScoringRules.Toml

def isBlankChar (c : Char) : Bool :=
  c == ' ' || c == '\t'

def isPlain (c : Char) : Bool :=
  c == '\t' || (0x20 ≤ c.toNat && c.toNat != 0x7f)

def skipBlanks (text : List Char) : List Char :=
  text.dropWhile isBlankChar

def lineBreak? : List Char → Option (List Char)
  | '\n' :: rest => some rest
  | '\r' :: '\n' :: rest => some rest
  | _ => none

def skipComment : List Char → List Char
  | '#' :: rest => rest.dropWhile isPlain
  | text => text

def lineEnd? (text : List Char) : Option (List Char) :=
  match skipComment (skipBlanks text) with
  | [] => some []
  | rest => lineBreak? rest

def skipBreaks (inComment : Bool) : List Char → List Char
  | [] => []
  | '\n' :: rest => skipBreaks false rest
  | '\r' :: '\n' :: rest => skipBreaks false rest
  | c :: rest =>
    if inComment then if isPlain c then skipBreaks true rest else c :: rest
    else if isBlankChar c then skipBreaks false rest
    else if c = '#' then skipBreaks true rest
    else c :: rest

def hexDigit? (c : Char) : Option Nat :=
  if c.isDigit then some (c.toNat - '0'.toNat)
  else if 'a' ≤ c ∧ c ≤ 'f' then some (c.toNat - 'a'.toNat + 10)
  else if 'A' ≤ c ∧ c ≤ 'F' then some (c.toNat - 'A'.toNat + 10)
  else none

def charOfHex? (digits : List Char) : Option Char := do
  let value ← digits.foldlM (fun n c => do return 16 * n + (← hexDigit? c)) 0
  if value.isValidChar then some (Char.ofNat value) else none

def escaped? : Char → Option Char
  | 'b' => some '\x08'
  | 't' => some '\t'
  | 'n' => some '\n'
  | 'f' => some '\x0c'
  | 'r' => some '\r'
  | '"' => some '"'
  | '\\' => some '\\'
  | _ => none

def basicString? : List Char → Option (List Char × List Char)
  | [] => none
  | '"' :: rest => some ([], rest)
  | '\\' :: 'u' :: a :: b :: c :: d :: rest => do
    let value ← charOfHex? [a, b, c, d]
    let (text, rest) ← basicString? rest
    return (value :: text, rest)
  | '\\' :: 'U' :: a :: b :: c :: d :: e :: f :: g :: h :: rest => do
    let value ← charOfHex? [a, b, c, d, e, f, g, h]
    let (text, rest) ← basicString? rest
    return (value :: text, rest)
  | '\\' :: c :: rest => do
    let value ← escaped? c
    let (text, rest) ← basicString? rest
    return (value :: text, rest)
  | c :: rest =>
    if isPlain c && c != '\\' then do
      let (text, rest) ← basicString? rest
      return (c :: text, rest)
    else none

def literalString? (text : List Char) : Option (List Char × List Char) :=
  let isInside (c : Char) : Bool := isPlain c && c != '\''
  match text.dropWhile isInside with
  | '\'' :: rest => some (text.takeWhile isInside, rest)
  | _ => none

def trimBreak (text : List Char) : List Char :=
  (lineBreak? text).getD text

def breaksLine (text : List Char) : Bool :=
  (lineBreak? (skipBlanks text)).isSome

/-- The text of a string of several lines behind its opening quotes. Up to two quotes may stand
before the closing ones. A backslash at the end of a line skips to what follows the white space
behind it. -/
def basicLines? (skipping : Bool) : List Char → Option (List Char × List Char)
  | [] => none
  | '"' :: '"' :: '"' :: '"' :: '"' :: rest => some (['"', '"'], rest)
  | '"' :: '"' :: '"' :: '"' :: rest => some (['"'], rest)
  | '"' :: '"' :: '"' :: rest => some ([], rest)
  | '\\' :: 'u' :: a :: b :: c :: d :: rest => do
    let value ← charOfHex? [a, b, c, d]
    let (text, rest) ← basicLines? false rest
    return (value :: text, rest)
  | '\\' :: 'U' :: a :: b :: c :: d :: e :: f :: g :: h :: rest => do
    let value ← charOfHex? [a, b, c, d, e, f, g, h]
    let (text, rest) ← basicLines? false rest
    return (value :: text, rest)
  | '\\' :: rest =>
    if breaksLine rest then basicLines? true rest
    else
      match rest with
      | c :: rest => do
        let value ← escaped? c
        let (text, rest) ← basicLines? false rest
        return (value :: text, rest)
      | [] => none
  | '\r' :: '\n' :: rest =>
    if skipping then basicLines? true rest
    else do
      let (text, rest) ← basicLines? false rest
      return ('\n' :: text, rest)
  | c :: rest =>
    if skipping && (isBlankChar c || c == '\n') then basicLines? true rest
    else if isPlain c || c == '\n' then do
      let (text, rest) ← basicLines? false rest
      return (c :: text, rest)
    else none

def literalLines? : List Char → Option (List Char × List Char)
  | [] => none
  | '\'' :: '\'' :: '\'' :: '\'' :: '\'' :: rest => some (['\'', '\''], rest)
  | '\'' :: '\'' :: '\'' :: '\'' :: rest => some (['\''], rest)
  | '\'' :: '\'' :: '\'' :: rest => some ([], rest)
  | '\r' :: '\n' :: rest => do
    let (text, rest) ← literalLines? rest
    return ('\n' :: text, rest)
  | c :: rest =>
    if isPlain c || c == '\n' then do
      let (text, rest) ← literalLines? rest
      return (c :: text, rest)
    else none

def string? : List Char → Option (List Char × List Char)
  | '"' :: '"' :: '"' :: rest => basicLines? false (trimBreak rest)
  | '"' :: rest => basicString? rest
  | '\'' :: '\'' :: '\'' :: rest => literalLines? (trimBreak rest)
  | '\'' :: rest => literalString? rest
  | _ => none

end ScoringRules.Toml
