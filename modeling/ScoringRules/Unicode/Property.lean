import ScoringRules.Text.CharSet
import ScoringRules.Unicode.Case
import ScoringRules.Unicode.GeneralCategory
import ScoringRules.Unicode.PropertyTable

/-!
Binary properties of characters. Some are lists; the others are derived from lists and general
categories by the rules of the standard. Those of version 17 are there as far as text needs them.
-/

namespace ScoringRules.Unicode

namespace Property

def whiteSpace : RunSet := .ofText PropertyTable.whiteSpace

def bidiControl : RunSet := .ofText PropertyTable.bidiControl

def bidiMirrored : RunSet := .ofText PropertyTable.bidiMirrored

def dash : RunSet := .ofText PropertyTable.dash

def hyphen : RunSet := .ofText PropertyTable.hyphen

def quotationMark : RunSet := .ofText PropertyTable.quotationMark

def terminalPunctuation : RunSet := .ofText PropertyTable.terminalPunctuation

def otherMath : RunSet := .ofText PropertyTable.otherMath

def hexDigit : RunSet := .ofText PropertyTable.hexDigit

def asciiHexDigit : RunSet := .ofText PropertyTable.asciiHexDigit

def otherAlphabetic : RunSet := .ofText PropertyTable.otherAlphabetic

def addedOtherAlphabetic : RunSet := .ofText PropertyTable.addedOtherAlphabetic

def ideographic : RunSet := .ofText PropertyTable.ideographic

def diacritic : RunSet := .ofText PropertyTable.diacritic

def extender : RunSet := .ofText PropertyTable.extender

def otherLowercase : RunSet := .ofText PropertyTable.otherLowercase

def addedOtherLowercase : RunSet := .ofText PropertyTable.addedOtherLowercase

def otherUppercase : RunSet := .ofText PropertyTable.otherUppercase

def noncharacterCodePoint : RunSet := .ofText PropertyTable.noncharacterCodePoint

def otherGraphemeExtend : RunSet := .ofText PropertyTable.otherGraphemeExtend

def graphemeLink : RunSet := .ofText PropertyTable.graphemeLink

def idsBinaryOperator : RunSet := .ofText PropertyTable.idsBinaryOperator

def idsTrinaryOperator : RunSet := .ofText PropertyTable.idsTrinaryOperator

def idsUnaryOperator : RunSet := .ofText PropertyTable.idsUnaryOperator

def radical : RunSet := .ofText PropertyTable.radical

def unifiedIdeograph : RunSet := .ofText PropertyTable.unifiedIdeograph

def otherDefaultIgnorableCodePoint : RunSet := .ofText PropertyTable.otherDefaultIgnorableCodePoint

def deprecated : RunSet := .ofText PropertyTable.deprecated

def softDotted : RunSet := .ofText PropertyTable.softDotted

def logicalOrderException : RunSet := .ofText PropertyTable.logicalOrderException

def otherIDStart : RunSet := .ofText PropertyTable.otherIDStart

def otherIDContinue : RunSet := .ofText PropertyTable.otherIDContinue

def idCompatMathStart : RunSet := .ofText PropertyTable.idCompatMathStart

def idCompatMathContinue : RunSet := .ofText PropertyTable.idCompatMathContinue

def sentenceTerminal : RunSet := .ofText PropertyTable.sentenceTerminal

def variationSelector : RunSet := .ofText PropertyTable.variationSelector

def patternWhiteSpace : RunSet := .ofText PropertyTable.patternWhiteSpace

def patternSyntax : RunSet := .ofText PropertyTable.patternSyntax

def prependedConcatenationMark : RunSet := .ofText PropertyTable.prependedConcatenationMark

def regionalIndicator : RunSet := .ofText PropertyTable.regionalIndicator

def modifierCombiningMark : RunSet := .ofText PropertyTable.modifierCombiningMark

def joinControl : RunSet := .ofText PropertyTable.joinControl

def emoji : RunSet := .ofText PropertyTable.emoji

def emojiComponent : RunSet := .ofText PropertyTable.emojiComponent

def emojiModifier : RunSet := .ofText PropertyTable.emojiModifier

def emojiModifierBase : RunSet := .ofText PropertyTable.emojiModifierBase

def emojiPresentation : RunSet := .ofText PropertyTable.emojiPresentation

def extendedPictographic : RunSet := .ofText PropertyTable.extendedPictographic

def changesWhenCasefolded : RunSet := .ofText PropertyTable.changesWhenCasefolded

def changesWhenTitlecased : RunSet := .ofText PropertyTable.changesWhenTitlecased

def changesWhenUppercased : RunSet := .ofText PropertyTable.changesWhenUppercased

def extended (list added : RunSet) : Edition → CharSet
  | .version16 => list.contains
  | .version17 => CharSet.union list.contains added.contains

def lowercase (edition : Edition) : CharSet :=
  (isIn edition [.lowercaseLetter]).union (extended otherLowercase addedOtherLowercase edition)

def uppercase (edition : Edition) : CharSet :=
  (isIn edition [.uppercaseLetter]).union otherUppercase.contains

def cased (edition : Edition) : CharSet :=
  .unions [lowercase edition, uppercase edition, isIn edition [.titlecaseLetter]]

def alphabetic (edition : Edition) : CharSet :=
  .unions [isIn edition GeneralCategory.letter, isIn edition [.letterNumber],
    extended otherLowercase addedOtherLowercase edition, otherUppercase.contains,
    extended otherAlphabetic addedOtherAlphabetic edition]

def caseIgnorable (edition : Edition) : CharSet :=
  CharSet.union
    (isIn edition [.nonspacingMark, .enclosingMark, .format, .modifierLetter, .modifierSymbol])
    (.ofString ("'.:\u00b7\u0387\u055f\u05f4\u2018\u2019\u2024\u2027\ufe13\ufe52\ufe55" ++
      "\uff07\uff0e\uff1a"))

def graphemeExtend (edition : Edition) : CharSet :=
  (isIn edition [.nonspacingMark, .enclosingMark]).union otherGraphemeExtend.contains

def math : CharSet :=
  (isIn .version16 [.mathSymbol]).union otherMath.contains

def graphemeBase : CharSet :=
  CharSet.diff
    (CharSet.compl
      (isIn .version16 (GeneralCategory.other ++ [.lineSeparator, .paragraphSeparator])))
    (graphemeExtend .version16)

def pattern : CharSet :=
  CharSet.union patternSyntax.contains patternWhiteSpace.contains

def idStart : CharSet :=
  CharSet.diff
    (.unions [isIn .version16 GeneralCategory.letter, isIn .version16 [.letterNumber],
      otherIDStart.contains])
    pattern

def idContinue : CharSet :=
  CharSet.diff
    (.unions [idStart,
      isIn .version16 [.nonspacingMark, .spacingMark, .decimalNumber, .connectorPunctuation],
      otherIDContinue.contains])
    pattern

def unstableInside : CharSet :=
  .ofString ("\u037a\u309b\u309c\ufc5e\ufc5f\ufc60\ufc61\ufc62\ufc63\ufdfa\ufdfb" ++
    "\ufe70\ufe72\ufe74\ufe76\ufe78\ufe7a\ufe7c\ufe7e")

def xidStart : CharSet :=
  CharSet.diff idStart (unstableInside.union (.ofString "\u0e33\u0eb3\uff9e\uff9f"))

def xidContinue : CharSet :=
  CharSet.diff idContinue unstableInside

def defaultIgnorableCodePoint (edition : Edition) : CharSet :=
  CharSet.diff
    (.unions [otherDefaultIgnorableCodePoint.contains, isIn edition [.format],
      variationSelector.contains])
    (.unions [whiteSpace.contains, .span '\ufff9' '\ufffb',
      fun c => 0x13430 ≤ c.toNat && c.toNat ≤ 0x13440, prependedConcatenationMark.contains])

def changesWhenLowercased : CharSet :=
  fun c => lowercaseMapping .version16 c != [c]

def changesWhenCasemapped : CharSet :=
  .unions [changesWhenLowercased, changesWhenTitlecased.contains, changesWhenUppercased.contains]

def named : List (List String × CharSet) :=
  [(["White_Space", "WSpace", "space"], whiteSpace.contains),
    (["Bidi_Control", "Bidi_C"], bidiControl.contains),
    (["Bidi_Mirrored", "Bidi_M"], bidiMirrored.contains),
    (["Dash"], dash.contains),
    (["Hyphen"], hyphen.contains),
    (["Quotation_Mark", "QMark"], quotationMark.contains),
    (["Terminal_Punctuation", "Term"], terminalPunctuation.contains),
    (["Other_Math", "OMath"], otherMath.contains),
    (["Hex_Digit", "Hex"], hexDigit.contains),
    (["ASCII_Hex_Digit", "AHex"], asciiHexDigit.contains),
    (["Other_Alphabetic", "OAlpha"], otherAlphabetic.contains),
    (["Ideographic", "Ideo"], ideographic.contains),
    (["Diacritic", "Dia"], diacritic.contains),
    (["Extender", "Ext"], extender.contains),
    (["Other_Lowercase", "OLower"], otherLowercase.contains),
    (["Other_Uppercase", "OUpper"], otherUppercase.contains),
    (["Noncharacter_Code_Point", "NChar"], noncharacterCodePoint.contains),
    (["Other_Grapheme_Extend", "OGr_Ext"], otherGraphemeExtend.contains),
    (["Grapheme_Link", "Gr_Link"], graphemeLink.contains),
    (["IDS_Binary_Operator", "IDSB"], idsBinaryOperator.contains),
    (["IDS_Trinary_Operator", "IDST"], idsTrinaryOperator.contains),
    (["IDS_Unary_Operator", "IDSU"], idsUnaryOperator.contains),
    (["Radical"], radical.contains),
    (["Unified_Ideograph", "UIdeo"], unifiedIdeograph.contains),
    (["Other_Default_Ignorable_Code_Point", "ODI"], otherDefaultIgnorableCodePoint.contains),
    (["Deprecated", "Dep"], deprecated.contains),
    (["Soft_Dotted", "SD"], softDotted.contains),
    (["Logical_Order_Exception", "LOE"], logicalOrderException.contains),
    (["Other_ID_Start", "OIDS"], otherIDStart.contains),
    (["Other_ID_Continue", "OIDC"], otherIDContinue.contains),
    (["ID_Compat_Math_Start"], idCompatMathStart.contains),
    (["ID_Compat_Math_Continue"], idCompatMathContinue.contains),
    (["Sentence_Terminal", "STerm"], sentenceTerminal.contains),
    (["Variation_Selector", "VS"], variationSelector.contains),
    (["Pattern_White_Space", "Pat_WS"], patternWhiteSpace.contains),
    (["Pattern_Syntax", "Pat_Syn"], patternSyntax.contains),
    (["Prepended_Concatenation_Mark", "PCM"], prependedConcatenationMark.contains),
    (["Regional_Indicator", "RI"], regionalIndicator.contains),
    (["Modifier_Combining_Mark", "MCM"], modifierCombiningMark.contains),
    (["Join_Control", "Join_C"], joinControl.contains),
    (["Emoji"], emoji.contains),
    (["Emoji_Component", "EComp"], emojiComponent.contains),
    (["Emoji_Modifier", "EMod"], emojiModifier.contains),
    (["Emoji_Modifier_Base", "EBase"], emojiModifierBase.contains),
    (["Emoji_Presentation", "EPres"], emojiPresentation.contains),
    (["Extended_Pictographic", "ExtPict"], extendedPictographic.contains),
    (["Changes_When_Casefolded", "CWCF"], changesWhenCasefolded.contains),
    (["Changes_When_Titlecased", "CWT"], changesWhenTitlecased.contains),
    (["Changes_When_Uppercased", "CWU"], changesWhenUppercased.contains),
    (["Alphabetic", "Alpha"], alphabetic .version16),
    (["Lowercase", "Lower"], lowercase .version16),
    (["Uppercase", "Upper"], uppercase .version16),
    (["Cased"], cased .version16),
    (["Case_Ignorable", "CI"], caseIgnorable .version16),
    (["Math"], math),
    (["Grapheme_Extend", "Gr_Ext"], graphemeExtend .version16),
    (["Grapheme_Base", "Gr_Base"], graphemeBase),
    (["ID_Start", "IDS"], idStart),
    (["ID_Continue", "IDC"], idContinue),
    (["XID_Start", "XIDS"], xidStart),
    (["XID_Continue", "XIDC"], xidContinue),
    (["Default_Ignorable_Code_Point", "DI"], defaultIgnorableCodePoint .version16),
    (["Changes_When_Lowercased", "CWL"], changesWhenLowercased),
    (["Changes_When_Casemapped", "CWCM"], changesWhenCasemapped)]

end Property

end ScoringRules.Unicode
