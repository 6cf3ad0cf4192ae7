import ScoringRules.Unicode.CaseTable
import ScoringRules.Unicode.Edition
import ScoringRules.Unicode.Runs

/-!
Case mappings of single characters: the lowercase form, and the characters that differ from one
another in case only.
-/

namespace ScoringRules.Unicode

/-- Code points from `first` on, `step` apart, with as many images that keep their distance. -/
structure CaseSpan where
  first : Nat
  count : Nat
  step : Nat
  target : Nat
  deriving Repr

namespace CaseSpan

def image? (span : CaseSpan) (n : Nat) : Option Nat :=
  let offset := n - span.first
  if span.first ≤ n ∧ offset % span.step = 0 ∧ offset / span.step < span.count then
    some (span.target + offset)
  else none

def preimage? (span : CaseSpan) (n : Nat) : Option Nat :=
  let offset := n - span.target
  if span.target ≤ n ∧ offset % span.step = 0 ∧ offset / span.step < span.count then
    some (span.first + offset)
  else none

def hexValue (digits : String) : Nat :=
  digits.foldl (fun n c => 16 * n + (if c.isDigit then c.toNat - 48 else c.toNat - 55)) 0

/-- Reads `first>target`, `first*count>target` or `first/count>target`, the last one for every
other code point. -/
def ofText (text : String) : CaseSpan :=
  match text.splitOn ">" with
  | [source, target] =>
    match source.splitOn "*", source.splitOn "/" with
    | [first, count], _ => ⟨hexValue first, count.toNat?.getD 0, 1, hexValue target⟩
    | _, [first, count] => ⟨hexValue first, count.toNat?.getD 0, 2, hexValue target⟩
    | _, _ => ⟨hexValue source, 1, 1, hexValue target⟩
  | _ => ⟨0, 0, 1, 0⟩

end CaseSpan

def lowercaseMap : Edition → List CaseSpan
  | .version16 => (words lowercaseSpans).map CaseSpan.ofText
  | .version17 => (words lowercaseSpans ++ words addedLowercaseSpans).map CaseSpan.ofText

def foldingMap : List CaseSpan :=
  (words foldingSpans).map CaseSpan.ofText

/-- The lowercase form of a character apart from its neighbours; a dotted capital I needs two. -/
def lowercaseMapping (edition : Edition) (c : Char) : List Char :=
  if c.toNat < 0x80 then [c.toLower]
  else if c = '\u0130' then ['i', '\u0307']
  else [(((lowercaseMap edition).findSome? (·.image? c.toNat)).map Char.ofNat).getD c]

def caseFold (c : Char) : Char :=
  ((foldingMap.findSome? (·.image? c.toNat)).map Char.ofNat).getD c

def caseOrbit (c : Char) : List Char :=
  let folded := caseFold c
  folded :: (foldingMap.filterMap (·.preimage? folded.toNat)).map Char.ofNat

end ScoringRules.Unicode
