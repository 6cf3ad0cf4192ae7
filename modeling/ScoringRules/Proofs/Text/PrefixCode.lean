import Mathlib.Data.List.Basic
import ScoringRules.Proofs.Data.General

/-!
Texts that can be read off the front of longer ones. Whatever follows, such a text tells which value
it stands for, and where it ends.
-/

namespace ScoringRules

/-- Two texts of values of the domain, each with something behind it, are equal only if the values
and what stands behind are. -/
def PrefixCode (domain : α → Prop) (encode : α → List Char) : Prop :=
  ∀ ⦃a b : α⦄, domain a → domain b →
    ∀ ⦃s t : List Char⦄, encode a ++ s = encode b ++ t → a = b ∧ s = t

namespace PrefixCode

variable {domain : α → Prop} {encode : α → List Char}

theorem of_read {read : List Char → Option (α × List Char)}
    (reads : ∀ a, domain a → ∀ s, read (encode a ++ s) = some (a, s)) :
    PrefixCode domain encode := by
  intro a b inside insideToo s t same
  have both := reads a inside s
  rw [same, reads b insideToo t] at both
  obtain ⟨rfl, rfl⟩ := Prod.mk.inj (Option.some.inj both)
  exact ⟨rfl, rfl⟩

theorem terminated {stop : Char} (absent : ∀ a, domain a → stop ∉ encode a)
    (injective : ∀ a b, domain a → domain b → encode a = encode b → a = b) :
    PrefixCode domain fun a => encode a ++ [stop] := by
  intro a b inside insideToo s t same
  simp only [List.append_assoc, List.singleton_append] at same
  obtain ⟨texts, behind⟩ := eq_of_append_stop (absent a inside) (absent b insideToo) same
  exact ⟨injective a b inside insideToo texts, behind⟩

theorem of_length {length : Nat} (even : ∀ a, domain a → (encode a).length = length)
    (injective : ∀ a b, domain a → domain b → encode a = encode b → a = b) :
    PrefixCode domain encode := by
  intro a b inside insideToo s t same
  obtain ⟨texts, behind⟩ :=
    List.append_inj same ((even a inside).trans (even b insideToo).symm)
  exact ⟨injective a b inside insideToo texts, behind⟩

theorem framed (code : PrefixCode domain encode) (before behind : List Char) :
    PrefixCode domain fun a => before ++ encode a ++ behind := by
  intro a b inside insideToo s t same
  simp only [List.append_assoc, List.append_cancel_left_eq] at same
  obtain ⟨rfl, tails⟩ := code inside insideToo same
  exact ⟨rfl, List.append_cancel_left tails⟩

theorem flatMap (code : PrefixCode domain encode) (stop : Char)
    (starts : ∀ a, domain a → ∃ c, (encode a).head? = some c ∧ c ≠ stop) :
    PrefixCode (fun list : List α => ∀ a ∈ list, domain a)
      fun list => list.flatMap encode ++ [stop] := by
  -- A list that ends here would have the stop where the other has the start of a text.
  have ends {a : α} (inside : domain a) (behind rest : List Char) :
      stop :: behind ≠ encode a ++ rest := by
    obtain ⟨c, first, different⟩ := starts a inside
    obtain ⟨tail, shape⟩ := List.head?_eq_some_iff.mp first
    rw [shape]
    exact fun same => different (List.cons.inj same).1.symm
  intro list others inside insideToo s t same
  simp only [List.append_assoc, List.singleton_append] at same
  induction list generalizing others with
  | nil =>
    cases others with
    | nil => exact ⟨rfl, (List.cons.inj same).2⟩
    | cons b others =>
      rw [List.flatMap_cons, List.append_assoc] at same
      exact absurd same (ends (insideToo b List.mem_cons_self) _ _)
  | cons a list ih =>
    obtain ⟨here, there⟩ := List.forall_mem_cons.mp inside
    cases others with
    | nil =>
      rw [List.flatMap_cons, List.append_assoc] at same
      exact absurd same.symm (ends here _ _)
    | cons b others =>
      obtain ⟨hereToo, thereToo⟩ := List.forall_mem_cons.mp insideToo
      rw [List.flatMap_cons, List.flatMap_cons, List.append_assoc, List.append_assoc] at same
      obtain ⟨rfl, tails⟩ := code here hereToo same
      obtain ⟨rfl, behind⟩ := ih there thereToo tails
      exact ⟨rfl, behind⟩

end PrefixCode

end ScoringRules
