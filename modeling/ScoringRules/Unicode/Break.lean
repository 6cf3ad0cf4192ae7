import ScoringRules.Unicode.BreakTable
import ScoringRules.Unicode.Runs

/-!
Classes of characters at the boundaries of graphemes, words and sentences. A class is known by
its short name.
-/

namespace ScoringRules.Unicode

def graphemeBreakMap : RunMap String :=
  .ofText id graphemeBreakRuns

def wordBreakMap : RunMap String :=
  .ofText id wordBreakRuns

def sentenceBreakMap : RunMap String :=
  .ofText id sentenceBreakRuns

def graphemeBreakNames : List (String × String) :=
  [("CN", "Control"), ("CR", "CR"), ("EX", "Extend"), ("L", "L"), ("LF", "LF"), ("LV", "LV"),
    ("LVT", "LVT"), ("PP", "Prepend"), ("RI", "Regional_Indicator"), ("SM", "SpacingMark"),
    ("T", "T"), ("V", "V"), ("ZWJ", "ZWJ")]

def wordBreakNames : List (String × String) :=
  [("CR", "CR"), ("DQ", "Double_Quote"), ("EX", "ExtendNumLet"), ("Extend", "Extend"),
    ("FO", "Format"), ("HL", "Hebrew_Letter"), ("KA", "Katakana"), ("LE", "ALetter"), ("LF", "LF"),
    ("MB", "MidNumLet"), ("ML", "MidLetter"), ("MN", "MidNum"), ("NL", "Newline"),
    ("NU", "Numeric"), ("RI", "Regional_Indicator"), ("SQ", "Single_Quote"),
    ("WSegSpace", "WSegSpace"), ("ZWJ", "ZWJ")]

def sentenceBreakNames : List (String × String) :=
  [("AT", "ATerm"), ("CL", "Close"), ("CR", "CR"), ("EX", "Extend"), ("FO", "Format"),
    ("LE", "OLetter"), ("LF", "LF"), ("LO", "Lower"), ("NU", "Numeric"), ("SC", "SContinue"),
    ("SE", "Sep"), ("SP", "Sp"), ("ST", "STerm"), ("UP", "Upper")]

end ScoringRules.Unicode
