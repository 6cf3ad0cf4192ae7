import Mathlib.Data.List.Basic

/-!
Numbers written in digits. The digits show the number; there is at least one of them, and none but
zero starts with a zero.
-/

namespace ScoringRules

section Base

variable {base : Nat} (large : 1 < base)

include large

theorem exists_of_mem_toDigits {n : Nat} {c : Char} (member : c ∈ Nat.toDigits base n) :
    ∃ d < base, c = Nat.digitChar d := by
  induction n using Nat.strongRecOn with
  | ind n ih =>
    rw [Nat.toDigits_eq_if large] at member
    split at member
    · exact ⟨n, ‹_›, List.mem_singleton.mp member⟩
    · rcases List.mem_append.mp member with front | last
      · exact ih (n / base) (Nat.div_lt_self (by omega) large) front
      · exact ⟨n % base, Nat.mod_lt n (by omega), List.mem_singleton.mp last⟩

theorem foldl_toDigits {value : Char → Nat} (digit : ∀ d < base, value (Nat.digitChar d) = d)
    (n : Nat) : (Nat.toDigits base n).foldl (fun number c => base * number + value c) 0 = n := by
  induction n using Nat.strongRecOn with
  | ind n ih =>
    rw [Nat.toDigits_eq_if large]
    split
    · rw [List.foldl_cons, List.foldl_nil, Nat.mul_zero, Nat.zero_add, digit n ‹_›]
    · rw [List.foldl_append, ih (n / base) (Nat.div_lt_self (by omega) large), List.foldl_cons,
        List.foldl_nil, digit _ (Nat.mod_lt n (by omega))]
      exact Nat.div_add_mod n base

end Base

theorem head?_toDigits {n : Nat} (positive : n ≠ 0) : (Nat.toDigits 10 n).head? ≠ some '0' := by
  have digit : ∀ d < 10, d ≠ 0 → Nat.digitChar d ≠ '0' := by decide
  induction n using Nat.strongRecOn with
  | ind n ih =>
    rw [Nat.toDigits_eq_if (by decide)]
    split
    · exact fun zero => digit n ‹_› positive (Option.some.inj zero)
    · rw [List.head?_append_of_ne_nil _ Nat.toDigits_ne_nil]
      exact ih (n / 10) (by omega) (by omega)

theorem isDigit_toDigits {n : Nat} : ∀ c ∈ Nat.toDigits 10 n, c.isDigit = true :=
  fun _ member => Nat.isDigit_of_mem_toDigits (by decide) (by decide) member

theorem toDigits_eq_zero {n : Nat} (leading : (Nat.toDigits 10 n).head? = some '0') :
    Nat.toDigits 10 n = ['0'] := by
  obtain rfl : n = 0 := by_contra fun positive => head?_toDigits positive leading
  rfl

section Decimal

theorem isDigit_of_mem_toString {n : Nat} {c : Char} (member : c ∈ (toString n).toList) :
    c.isDigit := by
  rw [Nat.toString_eq_repr, Nat.toList_repr] at member
  exact Nat.isDigit_of_mem_toDigits (by decide) (by decide) member

theorem toList_toString_ne_nil (n : Nat) : (toString n).toList ≠ [] := by
  rw [Nat.toString_eq_repr, Nat.toList_repr]
  exact Nat.toDigits_ne_nil

theorem toList_toString_int (i : Int) :
    ∃ n : Nat, (toString i).toList = (toString n).toList ∧ i = n ∨
      (toString i).toList = '-' :: (toString n).toList ∧ i = -n := by
  rw [Int.toString_eq_repr, Int.repr_eq_if]
  split
  · exact ⟨_, .inl ⟨rfl, by omega⟩⟩
  · exact ⟨(-i).toNat, .inr ⟨by simp, by omega⟩⟩

theorem toString_nat_injective : Function.Injective (toString : Nat → String) := by
  intro m n same
  have digits := congrArg (Nat.ofDigitChars 10 ·.toList 0) same
  simpa only [Nat.toString_eq_repr, Nat.toList_repr, Nat.ofDigitChars_ten_toDigits] using digits

theorem toList_toString_ne_minus (n : Nat) (rest : List Char) :
    (toString n).toList ≠ '-' :: rest := by
  intro same
  have minus : '-' ∈ (toString n).toList := by rw [same]; exact List.mem_cons_self
  exact absurd (isDigit_of_mem_toString minus) (by decide)

theorem toString_int_injective : Function.Injective (toString : Int → String) := by
  intro i j same
  have texts : (toString i).toList = (toString j).toList := by rw [same]
  obtain ⟨m, ⟨shape, rfl⟩ | ⟨shape, rfl⟩⟩ := toList_toString_int i <;>
    obtain ⟨n, ⟨shapeToo, rfl⟩ | ⟨shapeToo, rfl⟩⟩ := toList_toString_int j <;>
    rw [shape, shapeToo] at texts
  · rw [toString_nat_injective (String.toList_inj.mp texts)]
  · exact absurd texts (toList_toString_ne_minus _ _)
  · exact absurd texts.symm (toList_toString_ne_minus _ _)
  · rw [toString_nat_injective (String.toList_inj.mp (List.cons.inj texts).2)]

theorem notMem_toString_nat {c : Char} (other : c.isDigit = false) (n : Nat) :
    c ∉ (toString n).toList := fun inside =>
  Bool.false_ne_true (other.symm.trans (isDigit_of_mem_toString inside))

theorem notMem_toString_int {c : Char} (other : c.isDigit = false) (noSign : c ≠ '-') (i : Int) :
    c ∉ (toString i).toList := by
  obtain ⟨n, ⟨same, -⟩ | ⟨same, -⟩⟩ := toList_toString_int i
  · rw [same]
    exact notMem_toString_nat other n
  · rw [same, List.mem_cons, not_or]
    exact ⟨noSign, notMem_toString_nat other n⟩

theorem blank_notMem_toString_nat (n : Nat) : ' ' ∉ (toString n).toList :=
  notMem_toString_nat rfl n

theorem blank_notMem_toString_int (i : Int) : ' ' ∉ (toString i).toList :=
  notMem_toString_int rfl (by decide) i

theorem toList_toString_int_ne_nil (i : Int) : (toString i).toList ≠ [] := by
  obtain ⟨n, ⟨same, -⟩ | ⟨same, -⟩⟩ := toList_toString_int i
  · exact same ▸ toList_toString_ne_nil n
  · exact same ▸ List.cons_ne_nil _ _

end Decimal

end ScoringRules
