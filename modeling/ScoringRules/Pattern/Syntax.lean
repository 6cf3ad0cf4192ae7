import ScoringRules.Text.CharSet

/-!
Regular expressions as they are written.
-/

namespace ScoringRules.Pattern

inductive Flag where
  | caseInsensitive | multiLine | dotAll | swapGreed | unicode | crlf | verbose
  deriving DecidableEq, Repr

/-- Flags to set, or to clear where the Boolean is false. -/
abbrev FlagChanges := List (Flag × Bool)

inductive LookKind where
  | lineStart | lineEnd | textStart | textEnd
  | wordBoundary | notWordBoundary | wordStart | wordEnd | wordStartHalf | wordEndHalf
  deriving DecidableEq, Repr

inductive PerlClass where
  | digit | space | word
  deriving DecidableEq, Repr

/-- A character that stands for itself. One written as two hexadecimal digits may mean a byte. -/
structure Literal where
  char : Char
  asByte : Bool
  deriving DecidableEq, Repr

inductive SetOp where
  | intersection | difference | symmetricDifference
  deriving DecidableEq, Repr

mutual

inductive ClassItem where
  | literal (literal : Literal)
  | span (first last : Literal)
  | ascii (negated : Bool) (set : CharSet)
  | property (negated : Bool) (name : List Char)
  | perl (negated : Bool) (kind : PerlClass)
  | bracketed (negated : Bool) (set : ClassSet)

inductive ClassSet where
  | items (items : List ClassItem)
  | operation (op : SetOp) (left right : ClassSet)

end

inductive Node where
  | empty
  | flags (changes : FlagChanges)
  | literal (literal : Literal)
  | dot
  | look (kind : LookKind)
  | property (negated : Bool) (name : List Char)
  | perl (negated : Bool) (kind : PerlClass)
  | bracketed (negated : Bool) (set : ClassSet)
  /-- At least `least` copies, and no more than `most` if it is given. -/
  | repetition (body : Node) (least : Nat) (most : Option Nat)
  | group (changes : FlagChanges) (body : Node)
  | alternation (branches : List Node)
  | sequence (parts : List Node)

def Node.ofParts : List Node → Node
  | [] => .empty
  | [part] => part
  | parts => .sequence parts

def Node.ofBranches : List Node → Node
  | [] => .empty
  | [branch] => branch
  | branches => .alternation branches

mutual

def ClassItem.depth : ClassItem → Nat
  | .bracketed _ set => set.depth + 1
  | _ => 0

def ClassItem.depths : List ClassItem → Nat
  | [] => 0
  | item :: rest => max item.depth (ClassItem.depths rest)

/-- Two or more items in a row count as a construct, and so does an operation. -/
def ClassSet.depth : ClassSet → Nat
  | .items [] => 0
  | .items [item] => item.depth
  | .items (item :: next :: rest) =>
    max item.depth (max next.depth (ClassItem.depths rest)) + 1
  | .operation _ left right => max left.depth right.depth + 1

end

mutual

def Node.depth : Node → Nat
  | .bracketed _ set => set.depth + 1
  | .repetition body _ _ => body.depth + 1
  | .group _ body => body.depth + 1
  | .alternation branches => Node.depths branches + 1
  | .sequence parts => Node.depths parts + 1
  | _ => 0

def Node.depths : List Node → Nat
  | [] => 0
  | node :: rest => max node.depth (Node.depths rest)

end

def depthLimit : Nat := 250

end ScoringRules.Pattern
