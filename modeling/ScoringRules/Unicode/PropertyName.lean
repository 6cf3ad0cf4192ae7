import ScoringRules.Unicode.Age
import ScoringRules.Unicode.Break
import ScoringRules.Unicode.Property
import ScoringRules.Unicode.Script

/-!
Sets of characters by the names of their properties. Names are matched loosely: case, blanks,
underscores, hyphens and an initial `is` make no difference. The sets are those of version 16.
-/

namespace ScoringRules.Unicode

/-- What is left of a name for comparison. The name of a comment on a character, `isc`, keeps its
first letters, for it is no name of the category `C`. -/
def looseName (name : List Char) : List Char :=
  let significant (cs : List Char) : List Char :=
    (cs.filter fun c => c.toNat < 0x80 && c != ' ' && c != '_' && c != '-').map Char.toLower
  match name with
  | a :: b :: rest =>
    if a.toLower = 'i' ∧ b.toLower = 's' then
      match significant rest with
      | ['c'] => ['i', 's', 'c']
      | other => other
    else significant name
  | _ => significant name

def isNamed (names : List String) (loose : List Char) : Bool :=
  names.any fun name => looseName name.toList == loose

def findNamed (table : List (List String × α)) (loose : List Char) : Option α :=
  (table.find? fun row => isNamed row.1 loose).map Prod.snd

def categoryNamed? (loose : List Char) : Option CharSet :=
  if loose = "any".toList then some .all
  else if loose = "assigned".toList then some (CharSet.compl (isIn .version16 [.unassigned]))
  else if loose = "ascii".toList then some .ascii
  else (findNamed GeneralCategory.names loose).map (isIn .version16)

def scriptNamed? (loose : List Char) : Option String :=
  (scripts.find? fun row => isNamed (row.1 :: row.2) loose).map Prod.fst

def classNamed? (map : RunMap String) (names : List (String × String)) (loose : List Char) :
    Option CharSet :=
  (names.find? fun row => isNamed [row.1, row.2] loose).map fun row c => map.get? c == some row.1

/-- The characters that were there in a version, which is named as `3.2` or `V3_2`. -/
def versionNamed? (loose : List Char) : Option CharSet :=
  (versions.findIdx? fun version =>
    version.toList == loose || 'v' :: version.toList.filter (· != '.') == loose).map presentIn

def setNamed? (name : List Char) : Option CharSet :=
  let loose := looseName name
  findNamed Property.named loose <|> categoryNamed? loose <|> (scriptNamed? loose).map hasScript

def setWithValue? (property value : List Char) : Option CharSet :=
  let property := looseName property
  let value := looseName value
  if isNamed ["General_Category", "gc"] property then categoryNamed? value
  else if isNamed ["Script", "sc"] property then (scriptNamed? value).map hasScript
  else if isNamed ["Script_Extensions", "scx"] property then
    (scriptNamed? value).map usedInScript
  else if isNamed ["Age"] property then versionNamed? value
  else if isNamed ["Grapheme_Cluster_Break", "GCB"] property then
    classNamed? graphemeBreakMap graphemeBreakNames value
  else if isNamed ["Word_Break", "WB"] property then classNamed? wordBreakMap wordBreakNames value
  else if isNamed ["Sentence_Break", "SB"] property then
    classNamed? sentenceBreakMap sentenceBreakNames value
  else none

end ScoringRules.Unicode
