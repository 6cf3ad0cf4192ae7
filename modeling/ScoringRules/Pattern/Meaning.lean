import ScoringRules.Pattern.Matcher
import ScoringRules.Pattern.Syntax
import ScoringRules.Text.Blank
import ScoringRules.Unicode.PropertyName

/-!
The meaning of a regular expression as a matcher. It depends on flags, which hold from where they
are set to the end of the group. Without the flag `unicode`, classes hold ASCII characters only,
and whatever could match a part of a character is rejected.
-/

namespace ScoringRules.Pattern

structure Flags where
  caseInsensitive : Bool
  multiLine : Bool
  dotAll : Bool
  unicode : Bool
  crlf : Bool

namespace Flags

def start : Flags := ⟨false, false, false, true, false⟩

def change (flags : Flags) : Flag × Bool → Flags
  | (.caseInsensitive, value) => { flags with caseInsensitive := value }
  | (.multiLine, value) => { flags with multiLine := value }
  | (.dotAll, value) => { flags with dotAll := value }
  | (.unicode, value) => { flags with unicode := value }
  | (.crlf, value) => { flags with crlf := value }
  | (.swapGreed, _) => flags
  | (.verbose, _) => flags

def changes (flags : Flags) (changes : FlagChanges) : Flags :=
  changes.foldl change flags

end Flags

def wordChar : CharSet :=
  let wide : CharSet := .unions [Unicode.Property.alphabetic .version16,
    Unicode.isIn .version16
      (Unicode.GeneralCategory.mark ++ [.decimalNumber, .connectorPunctuation]),
    Unicode.Property.joinControl.contains]
  fun c => if c.toNat < 0x80 then c.isAlphanum || c == '_' else wide c

def asciiWordChar : CharSet :=
  fun c => c.isAlphanum || c == '_'

namespace PerlClass

def set (unicode : Bool) : PerlClass → CharSet
  | digit => if unicode then Unicode.isIn .version16 [.decimalNumber] else .span '0' '9'
  | space => if unicode then isBlank else .ofString "\t\n\x0b\x0c\r "
  | word => if unicode then wordChar else asciiWordChar

end PerlClass

namespace CharSet

def folded (set : ScoringRules.CharSet) : ScoringRules.CharSet :=
  fun c => set c || (Unicode.caseOrbit c).any set

/-- As `folded`, but only ASCII letters have a case. -/
def asciiFolded (set : ScoringRules.CharSet) : ScoringRules.CharSet :=
  fun c => set c || (c.isAlpha && (set c.toLower || set c.toUpper))

end CharSet

namespace Flags

def fold (flags : Flags) (set : CharSet) : CharSet :=
  if flags.caseInsensitive then
    if flags.unicode then CharSet.folded set else CharSet.asciiFolded set
  else set

/-- Negates after folding. Without `unicode` a negated class is rejected. -/
def foldAndNegate (flags : Flags) (negated : Bool) (set : CharSet) : Option CharSet :=
  if negated then if flags.unicode then some (flags.fold set).compl else none
  else some (flags.fold set)

def classChar (flags : Flags) (literal : Literal) : Option Char :=
  if flags.unicode || literal.char.toNat < 0x80 then some literal.char else none

def perl (flags : Flags) (negated : Bool) (kind : PerlClass) : Option CharSet :=
  let set := kind.set flags.unicode
  if negated then if flags.unicode then some set.compl else none else some set

def propertySet? (name : List Char) : Option CharSet :=
  let splitAt (mark : Char) : Option CharSet :=
    Unicode.setWithValue? (name.takeWhile (· != mark)) ((name.dropWhile (· != mark)).drop 1)
  if name.contains ':' then splitAt ':'
  else if name.contains '=' then splitAt '='
  else Unicode.setNamed? name

/-- The characters of a property. A value behind `!=` stands for all others, and negating it for
the value itself. -/
def property (flags : Flags) (negated : Bool) (name : List Char) : Option CharSet := do
  if !flags.unicode then none
  match (List.range name.length).find? fun i => ['!', '='].isPrefixOf (name.drop i) with
  | some i =>
    flags.foldAndNegate (!negated) (← Unicode.setWithValue? (name.take i) (name.drop (i + 2)))
  | none => flags.foldAndNegate negated (← propertySet? name)

end Flags

def SetOp.apply : SetOp → CharSet → CharSet → CharSet
  | intersection => CharSet.inter
  | difference => CharSet.diff
  | symmetricDifference => CharSet.symmDiff

mutual

/-- The characters of an item; folding is left to the class, but for what has to be negated. -/
def ClassItem.meaning (flags : Flags) : ClassItem → Option CharSet
  | .literal lit => do return .single (← flags.classChar lit)
  | .span first last => do return .span (← flags.classChar first) (← flags.classChar last)
  | .ascii negated set => flags.foldAndNegate negated set
  | .property negated name => flags.property negated name
  | .perl negated kind => flags.perl negated kind
  | .bracketed negated set => do flags.foldAndNegate negated (← set.meaning flags)

def ClassItem.meanings (flags : Flags) : List ClassItem → Option CharSet
  | [] => some .empty
  | item :: rest => do return (← item.meaning flags).union (← ClassItem.meanings flags rest)

def ClassSet.meaning (flags : Flags) : ClassSet → Option CharSet
  | .items items => ClassItem.meanings flags items
  | .operation op left right => do
    return op.apply (flags.fold (← left.meaning flags)) (flags.fold (← right.meaning flags))

end

namespace LookKind

def isWord (set : CharSet) (c : Option Char) : Bool :=
  match c with
  | some c => set c
  | none => false

def condition (flags : Flags) (kind : LookKind) : Look :=
  let word := isWord (if flags.unicode then wordChar else asciiWordChar)
  match kind with
  | lineStart =>
    if flags.multiLine then
      if flags.crlf then fun place =>
        place.before.isNone || place.before == some '\n' ||
          (place.before == some '\r' && place.after != some '\n')
      else fun place => place.before.isNone || place.before == some '\n'
    else fun place => place.before.isNone
  | lineEnd =>
    if flags.multiLine then
      if flags.crlf then fun place =>
        place.after.isNone || place.after == some '\r' ||
          (place.after == some '\n' && place.before != some '\r')
      else fun place => place.after.isNone || place.after == some '\n'
    else fun place => place.after.isNone
  | textStart => fun place => place.before.isNone
  | textEnd => fun place => place.after.isNone
  | wordBoundary => fun place => word place.before != word place.after
  | notWordBoundary => fun place => word place.before == word place.after
  | wordStart => fun place => !word place.before && word place.after
  | wordEnd => fun place => word place.before && !word place.after
  | wordStartHalf => fun place => !word place.before
  | wordEndHalf => fun place => !word place.after

end LookKind

namespace Flags

/-- What the dot matches. Without `unicode` it could match a part of a character. -/
def dot (flags : Flags) : Option CharSet :=
  if !flags.unicode then none
  else if flags.dotAll then some .all
  else if flags.crlf then some (CharSet.compl (.ofString "\r\n"))
  else some (CharSet.compl (.single '\n'))

/-- A literal. Without `unicode`, two hexadecimal digits mean a byte, which has to be ASCII. -/
def literal (flags : Flags) (literal : Literal) : Option CharSet :=
  if !flags.unicode && literal.asByte && 0x80 ≤ literal.char.toNat then none
  else some (flags.fold (.single literal.char))

end Flags

mutual

def Node.meaning (flags : Flags) : Node → Option (Matcher × Flags)
  | .empty => some (.empty, flags)
  | .flags changes => some (.empty, flags.changes changes)
  | .literal lit => do return (.chars false (← flags.literal lit), flags)
  | .dot => do return (.chars false (← flags.dot), flags)
  | .look kind => some (.look (kind.condition flags), flags)
  | .property negated name => do return (.chars false (← flags.property negated name), flags)
  | .perl negated kind => do return (.chars false (← flags.perl negated kind), flags)
  | .bracketed negated set => do
    return (.chars false (← flags.foldAndNegate negated (← set.meaning flags)), flags)
  | .repetition body least most => do
    let (matcher, after) ← body.meaning flags
    return (matcher.repeated least most, after)
  | .group changes body => do
    let (matcher, _) ← body.meaning (flags.changes changes)
    return (matcher, flags)
  | .alternation branches => Node.eitherMeaning flags branches
  | .sequence parts => do
    let (matchers, after) ← Node.meanings flags parts
    return (.ofList matchers, after)

def Node.meanings (flags : Flags) : List Node → Option (List Matcher × Flags)
  | [] => some ([], flags)
  | node :: rest => do
    let (matcher, after) ← node.meaning flags
    let (matchers, final) ← Node.meanings after rest
    return (matcher :: matchers, final)

/-- Flags that a branch sets hold for the branches behind it too. -/
def Node.eitherMeaning (flags : Flags) : List Node → Option (Matcher × Flags)
  | [] => some (.empty, flags)
  | [node] => node.meaning flags
  | node :: next :: rest => do
    let (matcher, after) ← node.meaning flags
    let (others, final) ← Node.eitherMeaning after (next :: rest)
    return (.either matcher others, final)

end

end ScoringRules.Pattern
