import ScoringRules.CompileError
import ScoringRules.Text.Blank

/-!
Cutting a source text into tokens. A gap of white space and comments is skipped, then the
longest lexeme is taken. A cursor holds the rest of the text and its place, so that reading can
go on behind a fault.
-/

namespace ScoringRules

def gapLength (inComment : Bool) : List Char → Nat
  | [] => 0
  | c :: rest =>
    if inComment then gapLength (c != '\n') rest + 1
    else if isBlank c then gapLength false rest + 1
    else if c = '#' then gapLength true rest + 1
    else 0

def unescape : Char → Char
  | 'n' => '\n'
  | 't' => '\t'
  | 'r' => '\r'
  | c => c

/-- The text of a string behind its opening quote, with the number of characters read; none if
the closing quote is missing. -/
def stringBody : List Char → Option (List Char × Nat)
  | [] => none
  | '"' :: _ => some ([], 1)
  | ['\\'] => none
  | '\\' :: c :: rest => (stringBody rest).map fun (text, n) => (unescape c :: text, n + 2)
  | c :: rest => (stringBody rest).map fun (text, n) => (c :: text, n + 1)

/-- What an escaped character stands for in a pattern: only the delimiter loses its backslash. -/
def patternEscape (c : Char) : List Char :=
  if c = '/' then ['/'] else ['\\', c]

def regexBody : List Char → Option (List Char × Nat)
  | [] => none
  | '/' :: _ => some ([], 1)
  | ['\\'] => none
  | '\\' :: c :: rest => (regexBody rest).map fun (text, n) => (patternEscape c ++ text, n + 2)
  | c :: rest => (regexBody rest).map fun (text, n) => (c :: text, n + 1)

def decimalValue (digits : List Char) : Nat :=
  digits.foldl (fun n c => 10 * n + (c.toNat - '0'.toNat)) 0

def int64? (value : Int) : Option Int64 :=
  if Int64.minValue.toInt ≤ value ∧ value ≤ Int64.maxValue.toInt then some (Int64.ofInt value)
  else none

def isNameStart (c : Char) : Bool :=
  c.isAlpha || c == '_'

def isNameChar (c : Char) : Bool :=
  c.isAlphanum || c == '_'

/-- The lexeme at the beginning of a text: a token that takes the first character and a number
of further ones, or a fault with the number of characters that reading goes past. -/
inductive Scan where
  | token (kind : TokenKind) (more : Nat)
  | fault (cause : LexFault) (skipped : Nat)
  deriving DecidableEq, Repr

namespace Scan

def orEqual (short long : Symbol) : List Char → Scan
  | '=' :: _ => token (.symbol long) 1
  | _ => token (.symbol short) 0

/-- An integer whose digits stand behind `signLength` characters of sign. -/
def integer (negative : Bool) (rest : List Char) : Scan :=
  let digits := rest.takeWhile Char.isDigit
  let magnitude : Int := decimalValue digits
  let length := if negative then digits.length + 1 else digits.length
  match int64? (if negative then -magnitude else magnitude) with
  | some value => token (.integer value) (length - 1)
  | none =>
    fault (.invalidNumber (String.ofList (if negative then '-' :: digits else digits))) length

def word (letters : List Char) : Scan :=
  let name := String.ofList letters
  token ((Keyword.ofText? name).elim (.identifier name) .keyword) (letters.length - 1)

def lexeme (first : Char) (rest : List Char) : Scan :=
  match first with
  | '(' => token (.symbol .leftParen) 0
  | ')' => token (.symbol .rightParen) 0
  | '[' => token (.symbol .leftBracket) 0
  | ']' => token (.symbol .rightBracket) 0
  | ',' => token (.symbol .comma) 0
  | '=' => orEqual .assign .equal rest
  | '<' => orEqual .less .lessEqual rest
  | '>' => orEqual .greater .greaterEqual rest
  | '!' =>
    match rest with
    | '=' :: _ => token (.symbol .notEqual) 1
    | _ => fault (.unexpectedCharacter '!') 1
  | '+' =>
    match rest with
    | '=' :: _ => token (.symbol .addAssign) 1
    | _ => fault (.unexpectedCharacter '+') 1
  | '-' =>
    match rest with
    | '=' :: _ => token (.symbol .subAssign) 1
    | c :: _ => if c.isDigit then integer true rest else fault (.unexpectedCharacter '-') 1
    | [] => fault (.unexpectedCharacter '-') 1
  | '"' =>
    match stringBody rest with
    | some (text, n) => token (.string (String.ofList text)) n
    | none => fault .unterminatedString (rest.length + 1)
  | '/' =>
    match regexBody rest with
    | some (pattern, n) => token (.regex (String.ofList pattern)) n
    | none => fault .unterminatedRegex (rest.length + 1)
  | _ =>
    if first.isDigit then integer false (first :: rest)
    else if isNameStart first then word ((first :: rest).takeWhile isNameChar)
    else fault (.unexpectedCharacter first) 0

end Scan

structure Cursor where
  location : Location
  rest : List Char
  deriving DecidableEq, Repr

namespace Cursor

def ofString (source : String) : Cursor :=
  ⟨.start, source.toList⟩

def advance (cursor : Cursor) (n : Nat) : Cursor :=
  ⟨cursor.location.after (cursor.rest.take n), cursor.rest.drop n⟩

def skipGap (cursor : Cursor) : Cursor :=
  cursor.advance (gapLength false cursor.rest)

@[simp] theorem length_rest_advance (cursor : Cursor) (n : Nat) :
    (cursor.advance n).rest.length = cursor.rest.length - n :=
  List.length_drop

/-- The tokens up to the end of input or the first fault, and where reading stopped. -/
def tokenize (cursor : Cursor) : Except CompileError (List Token) × Cursor :=
  let here := cursor.skipGap
  match _shape : here.rest with
  | [] => (.ok [⟨.endOfInput, here.location⟩], here)
  | c :: rest =>
    match Scan.lexeme c rest with
    | .fault cause skipped => (.error (.lexical cause here.location), here.advance skipped)
    | .token kind more =>
      let (tokens, stop) := tokenize (here.advance (more + 1))
      (tokens.map (⟨kind, here.location⟩ :: ·), stop)
termination_by cursor.rest.length
decreasing_by
  have shorter : cursor.skipGap.rest.length ≤ cursor.rest.length := by simp [skipGap]
  have nonempty : 0 < cursor.skipGap.rest.length := by
    change cursor.skipGap.rest = _ at _shape
    simp [_shape]
  rw [length_rest_advance]
  omega

end Cursor

end ScoringRules
