import Mathlib.Data.List.Basic
import Mathlib.Data.List.Induction
import ScoringRules.Data.OrderedMap
import ScoringRules.Proofs.Data.General

/-!
Ordered maps that are made by writing one entry after the other: which keys they have, in which
order, and which of several values written to a key is there at last.
-/

namespace ScoringRules

namespace OrderedMap

variable [DecidableEq κ] (writes : List (κ × ν))

theorem ofList_concat (key : κ) (value : ν) :
    ofList (writes ++ [(key, value)]) = (ofList writes).insert key value :=
  List.foldl_concat _ _ _ _

theorem keys_ofList : (ofList writes).keys = (writes.map Prod.fst).eraseDups := by
  induction writes using List.reverseRecOn with
  | nil => rfl
  | append_singleton writes write ih =>
    rw [ofList_concat, keys_insert, ih, List.map_append, List.map_singleton, eraseDups_concat]

theorem get?_ofList (key : κ) :
    (ofList writes).get? key =
      ((writes.filter fun write => write.1 = key).getLast?).map Prod.snd := by
  induction writes using List.reverseRecOn with
  | nil => rfl
  | append_singleton writes write ih =>
    rw [ofList_concat, get?_insert, ih, List.filter_append]
    by_cases same : write.1 = key
    · simp [same]
    · simp [same, Ne.symm same]

theorem isEmpty_ofList : (ofList writes).isEmpty = true ↔ writes = [] := by
  have keys := keys_ofList writes
  unfold OrderedMap.keys at keys
  rw [isEmpty, List.isEmpty_iff, ← List.map_eq_nil_iff (f := Prod.fst), keys]
  cases writes <;> simp [List.eraseDups_cons]

end OrderedMap

end ScoringRules
