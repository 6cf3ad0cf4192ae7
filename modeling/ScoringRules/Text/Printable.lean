import ScoringRules.Unicode.Property

/-!
Characters that show on their own: they are assigned to no invisible category, are not to be left
out where they cannot be shown, and are no marks that attach to the character before them.
-/

namespace ScoringRules

open Unicode

def hiddenCategories : List GeneralCategory :=
  GeneralCategory.other ++ GeneralCategory.separator

/-- Marks that belong to the character before them. Letters never do, though two halfwidth sound
marks that extend graphemes are letters. -/
def isAttached (c : Char) : Bool :=
  isIn .version17 GeneralCategory.mark c && Property.graphemeExtend .version17 c

def isShown (c : Char) : Bool :=
  if c.toNat < 0x80 then 0x20 ≤ c.toNat && c.toNat < 0x7f
  else !isIn .version17 hiddenCategories c && !isAttached c &&
    !Property.defaultIgnorableCodePoint .version17 c

end ScoringRules
