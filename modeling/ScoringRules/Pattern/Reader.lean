import ScoringRules.Pattern.Syntax
import ScoringRules.Text.Blank
import ScoringRules.Unicode.Property

/-!
Reading a regular expression. In verbose mode white space and comments between the parts of a
pattern are skipped. A pattern that breaks a rule is rejected without a reason.
-/

namespace ScoringRules.Pattern

structure ReaderState where
  rest : List Char
  verbose : Bool
  /-- Names of groups so far. -/
  names : List (List Char)

abbrev Reader := StateT ReaderState Option

namespace Reader

def reject : Reader α := fun _ => none

def require (condition : Bool) : Reader Unit :=
  if condition then pure () else reject

def peek : Reader (Option Char) := do
  return (← get).rest.head?

def peekChar : Reader Char := do
  match (← get).rest with
  | c :: _ => return c
  | [] => reject

def bump : Reader Unit :=
  modify fun s => { s with rest := s.rest.tail }

def afterComment (rest : List Char) : List Char :=
  (rest.dropWhile (· != '\n')).tail

theorem length_afterComment_le (rest : List Char) : (afterComment rest).length ≤ rest.length := by
  have shorter := (List.dropWhile_suffix (l := rest) (· != '\n')).length_le
  simp only [afterComment, List.length_tail]
  omega

def afterBlanks : List Char → List Char
  | [] => []
  | c :: rest =>
    if isBlank c then afterBlanks rest
    else if c = '#' then afterBlanks (afterComment rest)
    else c :: rest
termination_by text => text.length
decreasing_by
  · simp
  · have := length_afterComment_le rest
    simp only [List.length_cons]
    omega

def skipBlanks : Reader Unit :=
  modify fun s => if s.verbose then { s with rest := afterBlanks s.rest } else s

def bumpBlanks : Reader Unit := do
  bump
  skipBlanks

def bumpIf (text : String) : Reader Bool := do
  let s ← get
  if text.toList.isPrefixOf s.rest then
    set { s with rest := s.rest.drop text.length }
    return true
  else return false

/-- The character behind the next one, where white space and the mark of a comment are skipped;
the next but one if there is nothing else. -/
def significant (commented : Bool) : List Char → Option Char
  | [] => none
  | c :: rest =>
    if isBlank c then significant commented rest
    else if c = '#' ∧ !commented then significant true rest
    else some c

def peekSecond : Reader (Option Char) := do
  let s ← get
  match s.rest with
  | [] => return none
  | _ :: rest =>
    if s.verbose then return (significant false rest).or rest.head? else return rest.head?

def decimalValue (digits : List Char) : Nat :=
  digits.foldl (fun n c => 10 * n + (c.toNat - '0'.toNat)) 0

def digits : Nat → Reader (List Char)
  | 0 => return []
  | limit + 1 => do
    match ← peek with
    | some c =>
      if c.isDigit then
        bumpBlanks
        return c :: (← digits limit)
      else return []
    | none => return []

def count : Reader Nat := do
  modify fun s => { s with rest := s.rest.dropWhile isBlank }
  let digits ← digits (← get).rest.length
  modify fun s => { s with rest := s.rest.dropWhile isBlank }
  skipBlanks
  let value := decimalValue digits
  require (!digits.isEmpty && value < UInt32.size)
  return value

def isHexDigit (c : Char) : Bool :=
  c.isDigit || ('a' ≤ c && c ≤ 'f') || ('A' ≤ c && c ≤ 'F')

def hexValue (digits : List Char) : Nat :=
  digits.foldl (fun n c =>
    16 * n + (if c.isDigit then c.toNat - '0'.toNat else c.toLower.toNat - 'a'.toNat + 10)) 0

def charOfHex (digits : List Char) : Reader Char := do
  let value := hexValue digits
  require (!digits.isEmpty && value.isValidChar)
  return Char.ofNat value

def hexDigits : Nat → Reader (List Char)
  | 0 => return []
  | n + 1 => do
    let c ← peekChar
    require (isHexDigit c)
    bumpBlanks
    return c :: (← hexDigits n)

def untilBrace : Nat → Reader (List Char)
  | 0 => reject
  | limit + 1 => do
    let c ← peekChar
    if c = '\x7d' then return []
    else
      bumpBlanks
      return c :: (← untilBrace limit)

def braced : Reader (List Char) := do
  bumpBlanks
  untilBrace (← get).rest.length

def hexLiteral (kind : Char) : Reader Literal := do
  bumpBlanks
  if (← peekChar) = '\x7b' then
    let digits ← braced
    bumpBlanks
    require (digits.all isHexDigit)
    return ⟨← charOfHex digits, false⟩
  else
    let length := if kind = 'x' then 2 else if kind = 'u' then 4 else 8
    return ⟨← charOfHex (← hexDigits length), kind = 'x'⟩

def propertyName : Reader (List Char) := do
  bumpBlanks
  let c ← peekChar
  if c = '\x7b' then
    let name ← braced
    bump
    return name
  else
    require (c != '\\')
    bumpBlanks
    return [c]

inductive Escape where
  | literal (literal : Literal)
  | property (negated : Bool) (name : List Char)
  | perl (negated : Bool) (kind : PerlClass)
  | look (kind : LookKind)

def wordLookNamed? (name : List Char) : Option LookKind :=
  if name = "start".toList then some .wordStart
  else if name = "end".toList then some .wordEnd
  else if name = "start-half".toList then some .wordStartHalf
  else if name = "end-half".toList then some .wordEndHalf
  else none

/-- Behind a word boundary, a name in braces makes it a special one; other braces are left. -/
def wordLook : Reader LookKind := do
  let before ← get
  if before.rest.head? = some '\x7b' then
    bumpBlanks
    let c ← peekChar
    if c.isAlpha || c == '-' then
      let name ← untilBrace (← get).rest.length
      bump
      match wordLookNamed? name with
      | some kind => return kind
      | none => reject
    else
      set before
      return .wordBoundary
  else return .wordBoundary

def isPunctuation (c : Char) : Bool :=
  c.toNat < 0x80 && !c.isAlphanum && c != '<' && c != '>'

def escape : Reader Escape := do
  bump
  let c ← peekChar
  let perl (negated : Bool) (kind : PerlClass) : Reader Escape := do
    bump
    return .perl negated kind
  let control (value : Char) : Reader Escape := do
    bump
    return .literal ⟨value, false⟩
  let look (kind : LookKind) : Reader Escape := do
    bump
    return .look kind
  match c with
  | 'x' | 'u' | 'U' => return .literal (← hexLiteral c)
  | 'p' => return .property false (← propertyName)
  | 'P' => return .property true (← propertyName)
  | 'd' => perl false .digit
  | 'D' => perl true .digit
  | 's' => perl false .space
  | 'S' => perl true .space
  | 'w' => perl false .word
  | 'W' => perl true .word
  | 'a' => control '\x07'
  | 'f' => control '\x0c'
  | 't' => control '\t'
  | 'n' => control '\n'
  | 'r' => control '\r'
  | 'v' => control '\x0b'
  | 'A' => look .textStart
  | 'z' => look .textEnd
  | 'B' => look .notWordBoundary
  | '<' => look .wordStart
  | '>' => look .wordEnd
  | 'b' =>
    bump
    return .look (← wordLook)
  | _ =>
    require (isPunctuation c)
    control c

def asciiClassNamed? (name : List Char) : Option CharSet :=
  let digit := CharSet.span '0' '9'
  let lower := CharSet.span 'a' 'z'
  let upper := CharSet.span 'A' 'Z'
  match String.ofList name with
  | "alnum" => some (.unions [digit, lower, upper])
  | "alpha" => some (lower.union upper)
  | "ascii" => some .ascii
  | "blank" => some (.ofString "\t ")
  | "cntrl" => some (CharSet.union (.span '\x00' '\x1f') (.single '\x7f'))
  | "digit" => some digit
  | "graph" => some (.span '!' '~')
  | "lower" => some lower
  | "print" => some (.span ' ' '~')
  | "punct" =>
    some (.unions [.span '!' '/', .span ':' '@', .span '[' (Char.ofNat 0x60), .span '\x7b' '~'])
  | "space" => some (.ofString "\t\n\x0b\x0c\r ")
  | "upper" => some upper
  | "word" => some (.unions [digit, lower, upper, .single '_'])
  | "xdigit" => some (.unions [digit, .span 'a' 'f', .span 'A' 'F'])
  | _ => none

/-- A named class, whose bracket comes next. None is read if something is wrong with it. -/
def asciiClass? (rest : List Char) : Option (ClassItem × List Char) :=
  match rest with
  | '[' :: ':' :: rest =>
    let (negated, rest) := match rest with
      | '^' :: rest => (true, rest)
      | _ => (false, rest)
    let name := rest.takeWhile (· != ':')
    match rest.drop name.length with
    | ':' :: ']' :: rest => (asciiClassNamed? name).map fun set => (.ascii negated set, rest)
    | _ => none
  | _ => none

def classPrimitive : Reader Escape := do
  let c ← peekChar
  if c = '\\' then escape
  else
    bump
    return .literal ⟨c, false⟩

def literalOf : Escape → Reader Literal
  | .literal literal => return literal
  | _ => reject

def classSpan : Reader ClassItem := do
  let first ← classPrimitive
  skipBlanks
  let next ← peekChar
  let second ← peekSecond
  if next != '-' || second == some ']' || second == some '-' then
    match first with
    | .literal literal => return .literal literal
    | .property negated name => return .property negated name
    | .perl negated kind => return .perl negated kind
    | .look _ => reject
  else
    bumpBlanks
    let last ← literalOf (← classPrimitive)
    let first ← literalOf first
    require (first.char ≤ last.char)
    return .span first last

/-- Hyphens at the beginning of a class stand for themselves; at most as many as `limit`. -/
def leadingHyphens : Nat → Reader (List ClassItem)
  | 0 => return []
  | limit + 1 => do
    if (← peekChar) = '-' then
      bumpBlanks
      return .literal ⟨'-', false⟩ :: (← leadingHyphens limit)
    else return []

/-- The beginning of a class, whose bracket comes next: whether it is negated, and the characters
that stand for themselves only here. -/
def classOpening : Reader (Bool × List ClassItem) := do
  bumpBlanks
  let negated := (← peekChar) == '^'
  if negated then
    bumpBlanks
  let hyphens ← leadingHyphens (← get).rest.length
  if hyphens.isEmpty && (← peekChar) == ']' then
    bumpBlanks
    return (negated, [.literal ⟨']', false⟩])
  else return (negated, hyphens)

def joinSet (before : Option (SetOp × ClassSet)) (items : List ClassItem) : ClassSet :=
  match before with
  | some (op, left) => .operation op left (.items items)
  | none => .items items

def setOp? : List Char → Option SetOp
  | '&' :: '&' :: _ => some .intersection
  | '-' :: '-' :: _ => some .difference
  | '~' :: '~' :: _ => some .symmetricDifference
  | _ => none

def classBody : Nat → Option (SetOp × ClassSet) → List ClassItem → Reader ClassSet
  | 0, _, _ => reject
  | limit + 1, before, items => do
    skipBlanks
    let s ← get
    match s.rest with
    | [] => reject
    | ']' :: _ =>
      bump
      return joinSet before items
    | '[' :: _ =>
      match asciiClass? s.rest with
      | some (item, rest) =>
        set { s with rest := rest }
        classBody limit before (items ++ [item])
      | none =>
        let (negated, first) ← classOpening
        let inner ← classBody limit none first
        classBody limit before (items ++ [.bracketed negated inner])
    | _ =>
      match setOp? s.rest with
      | some op =>
        bump
        bump
        classBody limit (some (op, joinSet before items)) []
      | none =>
        let item ← classSpan
        classBody limit before (items ++ [item])

def bracketClass : Reader Node := do
  let (negated, first) ← classOpening
  return .bracketed negated (← classBody ((← get).rest.length + 1) none first)

def flagNamed? : Char → Option Flag
  | 'i' => some .caseInsensitive
  | 'm' => some .multiLine
  | 's' => some .dotAll
  | 'U' => some .swapGreed
  | 'u' => some .unicode
  | 'R' => some .crlf
  | 'x' => some .verbose
  | _ => none

/-- Letters of flags up to a colon or a closing parenthesis. Flags behind a hyphen are cleared. -/
def flagChanges : Nat → (hyphen last : Bool) → FlagChanges → Reader FlagChanges
  | 0, _, _, _ => reject
  | limit + 1, hyphen, last, changes => do
    let c ← peekChar
    if c = ':' ∨ c = ')' then
      require (!last)
      return changes
    else
      bump
      if c = '-' then
        require (!hyphen)
        flagChanges limit true true changes
      else
        match flagNamed? c with
        | some flag =>
          require (!changes.any fun change => change.1 == flag)
          flagChanges limit hyphen false (changes ++ [(flag, !hyphen)])
        | none => reject

def isNameLetter (c : Char) (first : Bool) : Bool :=
  c == '_' || Unicode.Property.alphabetic .version17 c ||
    (!first && (c == '.' || c == '[' || c == ']' ||
      Unicode.isIn .version17 Unicode.GeneralCategory.number c))

/-- The name of a group up to its closing bracket; no two groups share one. -/
def groupName : Reader Unit := do
  let s ← get
  let name := s.rest.takeWhile (· != '>')
  match name with
  | [] => reject
  | first :: others =>
    require (isNameLetter first true && others.all (isNameLetter · false))
    require (!s.names.contains name)
    match s.rest.drop name.length with
    | '>' :: rest => set { s with rest := rest, names := name :: s.names }
    | _ => reject

inductive Opening where
  | group (changes : FlagChanges)
  | flags (changes : FlagChanges)

def lookAround : List String := ["?=", "?!", "?<=", "?<!"]

/-- The beginning of a group, whose parenthesis comes next. Looking around is not supported. -/
def groupOpening : Reader Opening := do
  bumpBlanks
  let rest := (← get).rest
  require (!lookAround.any fun text => text.toList.isPrefixOf rest)
  if ← bumpIf "?P<" then
    groupName
    return .group []
  else if ← bumpIf "?<" then
    groupName
    return .group []
  else if ← bumpIf "?" then
    let before := (← get).rest
    let changes ← flagChanges (before.length + 1) false false []
    if (← peekChar) = ')' then
      bump
      require (before.head? != some ')')
      return .flags changes
    else
      bump
      return .group changes
  else return .group []

def changedFlag (flag : Flag) (changes : FlagChanges) (old : Bool) : Bool :=
  ((changes.find? fun change => change.1 == flag).map Prod.snd).getD old

def repeatable (parts : List Node) : Reader (List Node × Node) := do
  match parts with
  | [] => reject
  | .empty :: _ => reject
  | .flags _ :: _ => reject
  | last :: before => return (before, last)

def countedRange : Reader (Nat × Option Nat) := do
  bumpBlanks
  let least ← count
  let c ← peekChar
  if c = ',' then
    bumpBlanks
    if (← peekChar) = '\x7d' then
      bumpBlanks
      return (least, none)
    else
      let most ← count
      require ((← peekChar) == '\x7d' && least ≤ most)
      bumpBlanks
      return (least, some most)
  else
    require (c == '\x7d')
    bumpBlanks
    return (least, some least)

def primitive : Reader Node := do
  let c ← peekChar
  match c with
  | '\\' =>
    match ← escape with
    | .literal literal => return .literal literal
    | .property negated name => return .property negated name
    | .perl negated kind => return .perl negated kind
    | .look kind => return .look kind
  | '.' =>
    bump
    return .dot
  | '^' =>
    bump
    return .look .lineStart
  | '$' =>
    bump
    return .look .lineEnd
  | _ =>
    bump
    return .literal ⟨c, false⟩

/-- Parts and branches, both the last first, up to a closing parenthesis or the end. -/
def branches : Nat → List Node → List Node → Reader Node
  | 0, _, _ => reject
  | limit + 1, done, parts => do
    skipBlanks
    let finish : Node := .ofBranches (Node.ofParts parts.reverse :: done).reverse
    let simple (least : Nat) (most : Option Nat) : Reader Node := do
      let (before, last) ← repeatable parts
      bump
      let _ ← bumpIf "?"
      branches limit done (.repetition last least most :: before)
    match ← peek with
    | none => return finish
    | some ')' => return finish
    | some '(' =>
      let verbose := (← get).verbose
      match ← groupOpening with
      | .flags changes =>
        modify fun s => { s with verbose := changedFlag .verbose changes verbose }
        branches limit done (.flags changes :: parts)
      | .group changes =>
        modify fun s => { s with verbose := changedFlag .verbose changes verbose }
        let body ← branches limit [] []
        require ((← peekChar) == ')')
        modify fun s => { s with verbose := verbose }
        bump
        branches limit done (.group changes body :: parts)
    | some '|' =>
      bump
      branches limit (Node.ofParts parts.reverse :: done) []
    | some '[' =>
      let node ← bracketClass
      branches limit done (node :: parts)
    | some '?' => simple 0 (some 1)
    | some '*' => simple 0 none
    | some '+' => simple 1 none
    | some '\x7b' =>
      let (before, last) ← repeatable parts
      let (least, most) ← countedRange
      let _ ← bumpIf "?"
      branches limit done (.repetition last least most :: before)
    | some _ =>
      let node ← primitive
      branches limit done (node :: parts)

end Reader

def Node.ofString? (pattern : String) : Option Node := do
  let text := pattern.toList
  let (node, final) ← (Reader.branches (text.length + 1) [] []).run ⟨text, false, []⟩
  if final.rest.isEmpty && node.depth ≤ depthLimit then some node else none

end ScoringRules.Pattern
