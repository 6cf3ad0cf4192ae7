/-!
Editions of the standard, which differ in the characters they know and in a few of the older ones.
The sets that a pattern names are those of version 16. Quoting and lowercasing follow version 17,
and so do the names of groups.
-/

namespace ScoringRules.Unicode

inductive Edition where
  | version16
  | version17
  deriving DecidableEq, Repr

end ScoringRules.Unicode
