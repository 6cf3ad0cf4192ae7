/-!
Compact tables over code points. A table lists runs of neighbouring code points that share a
value, as text; looking up a code point is a binary search among the beginnings of the runs.
-/

namespace ScoringRules.Unicode

def words (text : String) : List String :=
  (text.splitToList Char.isWhitespace).filter (!·.isEmpty)

/-- The number of boundaries at most `n`, which lies between `low` and `high`; `steps` bounds the
halvings. -/
def countUpTo (boundaries : Array Nat) (n : Nat) : (steps low high : Nat) → Nat
  | 0, low, _ => low
  | steps + 1, low, high =>
    if high ≤ low then low
    else
      let middle := (low + high) / 2
      if boundaries.getD middle 0 ≤ n then countUpTo boundaries n steps (middle + 1) high
      else countUpTo boundaries n steps low middle

def boundariesUpTo (boundaries : Array Nat) (n : Nat) : Nat :=
  countUpTo boundaries n (boundaries.size.log2 + 1) 0 boundaries.size

def partialSums (lengths : List Nat) : Array Nat :=
  (lengths.foldl (fun (sums, total) length => (sums.push (total + length), total + length))
    ((#[] : Array Nat), 0)).1

/-- A set of code points: the boundaries at which membership changes. -/
structure RunSet where
  boundaries : Array Nat

namespace RunSet

/-- Reads lengths of runs outside, inside, outside the set and so on. -/
def ofText (text : String) : RunSet :=
  ⟨partialSums ((words text).map fun length => length.toNat?.getD 0)⟩

def contains (set : RunSet) (c : Char) : Bool :=
  boundariesUpTo set.boundaries c.toNat % 2 == 1

end RunSet

/-- A value for each code point: those of consecutive runs, and the boundaries between them. -/
structure RunMap (α : Type) where
  boundaries : Array Nat
  values : Array α

namespace RunMap

/-- A run of `name*length`, or of one code point where the length is left out. -/
def readRun (run : String) : String × Nat :=
  match run.splitOn "*" with
  | [name, length] => (name, length.toNat?.getD 0)
  | _ => (run, 1)

def ofText (decode : String → α) (text : String) : RunMap α :=
  let runs := (words text).map readRun
  ⟨partialSums (runs.map Prod.snd), (runs.map fun run => decode run.1).toArray⟩

def get? (map : RunMap α) (c : Char) : Option α :=
  map.values[boundariesUpTo map.boundaries c.toNat]?

end RunMap

end ScoringRules.Unicode
