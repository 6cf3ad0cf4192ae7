/-!
Sets of characters, given by their membership tests.
-/

namespace ScoringRules

abbrev CharSet := Char → Bool

namespace CharSet

def empty : CharSet := fun _ => false

def all : CharSet := fun _ => true

def single (c : Char) : CharSet := fun d => d == c

def ofString (members : String) : CharSet :=
  let members := members.toList
  fun c => members.contains c

def span (first last : Char) : CharSet := fun c => first ≤ c && c ≤ last

def union (a b : CharSet) : CharSet := fun c => a c || b c

def inter (a b : CharSet) : CharSet := fun c => a c && b c

def diff (a b : CharSet) : CharSet := fun c => a c && !b c

def symmDiff (a b : CharSet) : CharSet := fun c => a c != b c

def compl (a : CharSet) : CharSet := fun c => !a c

def unions (sets : List CharSet) : CharSet := fun c => sets.any fun set => set c

def ascii : CharSet := fun c => c.toNat < 0x80

end CharSet

end ScoringRules
