import ScoringRules.Text.CharSet
import ScoringRules.Unicode.CategoryTable
import ScoringRules.Unicode.Edition
import ScoringRules.Unicode.Runs

/-!
The general category of a character.
-/

namespace ScoringRules.Unicode

inductive GeneralCategory where
  | uppercaseLetter | lowercaseLetter | titlecaseLetter | modifierLetter | otherLetter
  | nonspacingMark | spacingMark | enclosingMark
  | decimalNumber | letterNumber | otherNumber
  | connectorPunctuation | dashPunctuation | openPunctuation | closePunctuation
  | initialPunctuation | finalPunctuation | otherPunctuation
  | mathSymbol | currencySymbol | modifierSymbol | otherSymbol
  | spaceSeparator | lineSeparator | paragraphSeparator
  | control | format | surrogate | privateUse | unassigned
  deriving DecidableEq, Repr

namespace GeneralCategory

def ofCode : String → GeneralCategory
  | "Lu" => uppercaseLetter
  | "Ll" => lowercaseLetter
  | "Lt" => titlecaseLetter
  | "Lm" => modifierLetter
  | "Lo" => otherLetter
  | "Mn" => nonspacingMark
  | "Mc" => spacingMark
  | "Me" => enclosingMark
  | "Nd" => decimalNumber
  | "Nl" => letterNumber
  | "No" => otherNumber
  | "Pc" => connectorPunctuation
  | "Pd" => dashPunctuation
  | "Ps" => openPunctuation
  | "Pe" => closePunctuation
  | "Pi" => initialPunctuation
  | "Pf" => finalPunctuation
  | "Po" => otherPunctuation
  | "Sm" => mathSymbol
  | "Sc" => currencySymbol
  | "Sk" => modifierSymbol
  | "So" => otherSymbol
  | "Zs" => spaceSeparator
  | "Zl" => lineSeparator
  | "Zp" => paragraphSeparator
  | "Cc" => control
  | "Cf" => format
  | "Cs" => surrogate
  | "Co" => privateUse
  | _ => unassigned

def cased : List GeneralCategory := [uppercaseLetter, lowercaseLetter, titlecaseLetter]

def letter : List GeneralCategory := cased ++ [modifierLetter, otherLetter]

def mark : List GeneralCategory := [nonspacingMark, spacingMark, enclosingMark]

def number : List GeneralCategory := [decimalNumber, letterNumber, otherNumber]

def punctuation : List GeneralCategory :=
  [connectorPunctuation, dashPunctuation, openPunctuation, closePunctuation, initialPunctuation,
    finalPunctuation, otherPunctuation]

def symbol : List GeneralCategory := [mathSymbol, currencySymbol, modifierSymbol, otherSymbol]

def separator : List GeneralCategory := [spaceSeparator, lineSeparator, paragraphSeparator]

def other : List GeneralCategory := [control, format, surrogate, privateUse, unassigned]

/-- Names of categories and of groups of them. No character is a surrogate, so that category is
not there to be named. -/
def names : List (List String × List GeneralCategory) :=
  [(["L", "Letter"], letter), (["LC", "Cased_Letter"], cased),
    (["Lu", "Uppercase_Letter"], [uppercaseLetter]),
    (["Ll", "Lowercase_Letter"], [lowercaseLetter]),
    (["Lt", "Titlecase_Letter"], [titlecaseLetter]),
    (["Lm", "Modifier_Letter"], [modifierLetter]),
    (["Lo", "Other_Letter"], [otherLetter]),
    (["M", "Mark", "Combining_Mark"], mark),
    (["Mn", "Nonspacing_Mark"], [nonspacingMark]),
    (["Mc", "Spacing_Mark"], [spacingMark]),
    (["Me", "Enclosing_Mark"], [enclosingMark]),
    (["N", "Number"], number),
    (["Nd", "Decimal_Number", "digit"], [decimalNumber]),
    (["Nl", "Letter_Number"], [letterNumber]),
    (["No", "Other_Number"], [otherNumber]),
    (["P", "Punctuation", "punct"], punctuation),
    (["Pc", "Connector_Punctuation"], [connectorPunctuation]),
    (["Pd", "Dash_Punctuation"], [dashPunctuation]),
    (["Ps", "Open_Punctuation"], [openPunctuation]),
    (["Pe", "Close_Punctuation"], [closePunctuation]),
    (["Pi", "Initial_Punctuation"], [initialPunctuation]),
    (["Pf", "Final_Punctuation"], [finalPunctuation]),
    (["Po", "Other_Punctuation"], [otherPunctuation]),
    (["S", "Symbol"], symbol),
    (["Sm", "Math_Symbol"], [mathSymbol]),
    (["Sc", "Currency_Symbol"], [currencySymbol]),
    (["Sk", "Modifier_Symbol"], [modifierSymbol]),
    (["So", "Other_Symbol"], [otherSymbol]),
    (["Z", "Separator"], separator),
    (["Zs", "Space_Separator"], [spaceSeparator]),
    (["Zl", "Line_Separator"], [lineSeparator]),
    (["Zp", "Paragraph_Separator"], [paragraphSeparator]),
    (["C", "Other"], other),
    (["Cc", "Control", "cntrl"], [control]),
    (["Cf", "Format"], [format]),
    (["Co", "Private_Use"], [privateUse]),
    (["Cn", "Unassigned"], [unassigned])]

end GeneralCategory

def categories : RunMap GeneralCategory :=
  .ofText GeneralCategory.ofCode categoryRuns

def categoryChanges : RunMap (Option GeneralCategory) :=
  .ofText (fun code => if code = "=" then none else some (.ofCode code)) categoryChangeRuns

def generalCategory (edition : Edition) (c : Char) : GeneralCategory :=
  let first := (categories.get? c).getD .unassigned
  match edition with
  | .version16 => first
  | .version17 => (categoryChanges.get? c).join.getD first

def isIn (edition : Edition) (members : List GeneralCategory) : CharSet :=
  fun c => members.contains (generalCategory edition c)

end ScoringRules.Unicode
