import ScoringRules.Text.CharSet

/-!
Finding a match in one pass over the text. An expression carries marks on its characters: a mark
tells that the text read so far can end with this character. Reading a character moves the marks,
so the time is linear in the length of the text.
-/

namespace ScoringRules.Pattern

structure Boundary where
  before : Option Char
  after : Option Char

abbrev Look := Boundary → Bool

inductive Matcher where
  | empty
  | chars (marked : Bool) (set : CharSet)
  | look (condition : Look)
  | sequence (first second : Matcher)
  | either (first second : Matcher)
  | optional (body : Matcher)
  /-- One or more copies in a row. -/
  | plus (body : Matcher)

namespace Matcher

def isNullable (place : Boundary) : Matcher → Bool
  | empty => true
  | chars _ _ => false
  | look condition => condition place
  | sequence first second => first.isNullable place && second.isNullable place
  | either first second => first.isNullable place || second.isNullable place
  | optional _ => true
  | plus body => body.isNullable place

def isFinal (place : Boundary) : Matcher → Bool
  | empty => false
  | chars marked _ => marked
  | look _ => false
  | sequence first second =>
    second.isFinal place || (first.isFinal place && second.isNullable place)
  | either first second => first.isFinal place || second.isFinal place
  | optional body => body.isFinal place
  | plus body => body.isFinal place

/-- The expression behind the next character `c`; `enter` tells whether a match may begin. -/
def shift (place : Boundary) (c : Char) (enter : Bool) : Matcher → Matcher
  | empty => empty
  | chars _ set => chars (enter && set c) set
  | look condition => look condition
  | sequence first second =>
    sequence (first.shift place c enter)
      (second.shift place c (first.isFinal place || (enter && first.isNullable place)))
  | either first second => either (first.shift place c enter) (second.shift place c enter)
  | optional body => optional (body.shift place c enter)
  | plus body => plus (body.shift place c (enter || body.isFinal place))

/-- Whether a match begins and ends within a text behind the character `before`, or one that has
begun ends. -/
def findFrom (matcher : Matcher) (before : Option Char) : List Char → Bool
  | [] =>
    let place : Boundary := ⟨before, none⟩
    matcher.isFinal place || matcher.isNullable place
  | c :: rest =>
    let place : Boundary := ⟨before, some c⟩
    matcher.isFinal place || matcher.isNullable place ||
      findFrom (matcher.shift place c true) (some c) rest

def isMatch (matcher : Matcher) (text : String) : Bool :=
  matcher.findFrom none text.toList

def ofList : List Matcher → Matcher
  | [] => empty
  | [matcher] => matcher
  | matcher :: rest => sequence matcher (ofList rest)

def copies (body : Matcher) (n : Nat) : Matcher :=
  if n = 0 then empty
  else if n = 1 then body
  else sequence (copies body (n / 2)) (copies body (n - n / 2))
termination_by n

def isWidthless : Matcher → Bool
  | empty => true
  | chars _ _ => false
  | look _ => true
  | sequence first second => first.isWidthless && second.isWidthless
  | either first second => first.isWidthless && second.isWidthless
  | optional body => body.isWidthless
  | plus body => body.isWidthless

/-- At least `least` copies, and no more than `most` if it is given. A match that is empty can be
repeated at will. -/
def repeated (body : Matcher) (least : Nat) (most : Option Nat) : Matcher :=
  if body.isWidthless then if least = 0 then empty else body
  else
    match most, least with
    | some most, least => sequence (copies body least) (copies (optional body) (most - least))
    | none, 0 => optional (plus body)
    | none, n + 1 => sequence (copies body n) (plus body)

end Matcher

end ScoringRules.Pattern
