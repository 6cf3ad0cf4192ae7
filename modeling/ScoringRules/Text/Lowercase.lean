import ScoringRules.Unicode.Property

/-!
Lowercase text. A capital sigma at the end of a word becomes a final sigma; any other character
is mapped on its own.
-/

namespace ScoringRules

def startsCased (text : List Char) : Bool :=
  match text.dropWhile (Unicode.Property.caseIgnorable .version17) with
  | [] => false
  | c :: _ => Unicode.Property.cased .version17 c

/-- Lowercases a text behind other characters, the nearest of them first. -/
def lowercaseAfter (before : List Char) : List Char → List Char
  | [] => []
  | c :: rest =>
    let image :=
      if c = 'Σ' then if startsCased before && !startsCased rest then ['ς'] else ['σ']
      else Unicode.lowercaseMapping .version17 c
    image ++ lowercaseAfter (c :: before) rest

def lowercase (text : String) : String :=
  String.ofList (lowercaseAfter [] text.toList)

end ScoringRules
