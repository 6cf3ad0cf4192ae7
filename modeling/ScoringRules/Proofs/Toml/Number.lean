import ScoringRules.Proofs.Text.Digits
import ScoringRules.Toml.DateTime
import ScoringRules.Toml.Printer

/-!
Integers of TOML read back. At the end of a line their digits are no date, no time and no fraction,
and stand for a number in base ten.
-/

namespace ScoringRules.Toml

/-- What can be read for the first number of a date or a time has no mark behind it. -/
def Unmarked (text : List Char) : Prop :=
  ∀ ⦃count least most value : Nat⦄ ⦃behind : List Char⦄,
    fixedDigits? (count + 1) least most text = some (value, behind) →
      ∀ mark, mark = '-' ∨ mark = ':' → expectChar? mark behind = none

theorem Unmarked.dateTime?_eq_none {text : List Char} (unmarked : Unmarked text) :
    dateTime? text = none := by
  have noDate : date? text = none := by
    unfold date?
    cases read : fixedDigits? 4 0 9999 text with
    | none => rfl
    | some year => simp [unmarked read '-' (.inl rfl)]
  have noTime : time? text = none := by
    unfold time?
    cases read : fixedDigits? 2 0 23 text with
    | none => rfl
    | some hour => simp [unmarked read ':' (.inr rfl)]
  rw [dateTime?, noDate, noTime]
  rfl

theorem unmarked_minus (text : List Char) : Unmarked ('-' :: text) := by
  intro count least most value behind read
  rw [fixedDigits?, if_neg] at read
  · cases read
  · simp [List.take_succ_cons]

section Digits

variable {digits : List Char} (numeral : ∀ c ∈ digits, c.isDigit = true) (rest : List Char)

include numeral

theorem unmarked_digits : Unmarked (digits ++ '\n' :: rest) := by
  intro count least most value behind read mark marks
  rw [fixedDigits?] at read
  split at read
  · rename_i fits
    obtain ⟨-, rfl⟩ := Prod.mk.inj (Option.some.inj read)
    have within : count + 1 ≤ digits.length := by
      by_contra beyond
      have lineFeed : '\n' ∈ (digits ++ '\n' :: rest).take (count + 1) := by
        rw [List.take_append, List.take_of_length_le (by omega), List.mem_append]
        right
        have taken : count + 1 - digits.length = count - digits.length + 1 := by omega
        rw [taken, List.take_succ_cons]
        exact List.mem_cons_self
      exact absurd (List.all_eq_true.mp fits.2.1 _ lineFeed) (by decide)
    rw [List.drop_append_of_le_length within]
    cases left : digits.drop (count + 1) with
    | nil => rcases marks with rfl | rfl <;> rfl
    | cons d more =>
      have digit := numeral d (List.mem_of_mem_drop (left ▸ List.mem_cons_self))
      have other : d ≠ mark := by
        rintro rfl
        rcases marks with rfl | rfl <;> exact absurd digit (by decide)
      exact if_neg other
  · cases read

theorem digits?_append (nonempty : digits ≠ []) :
    digits? Char.isDigit (digits ++ '\n' :: rest) = some (digits, '\n' :: rest) := by
  induction digits with
  | nil => exact absurd rfl nonempty
  | cons c digits ih =>
    obtain ⟨digit, numeralRest⟩ := List.forall_mem_cons.mp numeral
    cases digits with
    | nil =>
      rw [List.singleton_append, digits?]
      · rw [digit]
        rfl
      · nofun
    | cons d digits =>
      have next : d.isDigit = true := numeralRest d List.mem_cons_self
      have behind := ih numeralRest (List.cons_ne_nil _ _)
      rw [List.cons_append, digits?, behind, digit]
      · simp [next]
      · intro more same
        exact absurd ((List.cons.inj same).1 ▸ next) (by decide)

theorem integerDigits?_append (nonempty : digits ≠ [])
    (leading : digits.head? = some '0' → digits = ['0']) :
    integerDigits? (digits ++ '\n' :: rest) = some (digits, '\n' :: rest) := by
  by_cases zero : digits.head? = some '0'
  · rw [leading zero]
    rfl
  · rw [integerDigits?, digits?_append numeral rest nonempty]
    intro more same
    refine zero ?_
    cases digits with
    | nil => exact absurd rfl nonempty
    | cons c digits => rw [List.head?_cons, (List.cons.inj same).1]

theorem decimal?_append (nonempty : digits ≠ [])
    (leading : digits.head? = some '0' → digits = ['0']) (sign : List Char) :
    decimal? sign (digits ++ '\n' :: rest) = do
      let magnitude : Int := valueOf 10 digits
      return (← integerItem? (if sign = ['-'] then -magnitude else magnitude), '\n' :: rest) := by
  rw [decimal?, integerDigits?_append numeral rest nonempty leading]
  rfl

theorem signed?_append (nonempty : digits ≠ [])
    (leading : digits.head? = some '0' → digits = ['0']) (sign : List Char) :
    signed? sign (digits ++ '\n' :: rest) = do
      let magnitude : Int := valueOf 10 digits
      return (← integerItem? (if sign = ['-'] then -magnitude else magnitude), '\n' :: rest) := by
  rw [← decimal?_append numeral rest nonempty leading]
  obtain ⟨c, more, rfl⟩ := List.exists_cons_of_ne_nil nonempty
  have digit := numeral c List.mem_cons_self
  rw [List.cons_append, signed?]
  all_goals
    intro _ same
    exact absurd ((List.cons.inj same).1 ▸ digit) (by decide)

theorem number?_append (nonempty : digits ≠ [])
    (leading : digits.head? = some '0' → digits = ['0']) :
    number? (digits ++ '\n' :: rest) = signed? [] (digits ++ '\n' :: rest) := by
  obtain ⟨c, more, rfl⟩ := List.exists_cons_of_ne_nil nonempty
  have digit := numeral c List.mem_cons_self
  have alone {d : Char} {t : List Char} (same : c :: more ++ '\n' :: rest = '0' :: d :: t) :
      d = '\n' := by
    obtain ⟨rfl, behind⟩ := List.cons.inj same
    obtain ⟨-, rfl⟩ := List.cons.inj (leading rfl)
    exact (List.cons.inj behind).1.symm
  rw [number?]
  case x_1 | x_2 =>
    intro _ same
    exact absurd ((List.cons.inj same).1 ▸ digit) (by decide)
  all_goals
    intro _ same
    exact absurd (alone same) (by decide)

end Digits

theorem valueOf_toDigits (n : Nat) : valueOf 10 (Nat.toDigits 10 n) = n :=
  foldl_toDigits (by decide) (by decide) n

theorem integerItem?_toInt (value : Int64) :
    integerItem? value.toInt = some (.integer value) := by
  rw [integerItem?, if_pos ⟨value.minValue_le_toInt, value.toInt_le⟩, Int64.ofInt_toInt]

theorem number?_integerForm (value : Int64) (rest : List Char) :
    dateTime? (integerForm value ++ '\n' :: rest) = none ∧
      number? (integerForm value ++ '\n' :: rest) = some (.integer value, '\n' :: rest) := by
  have item := integerItem?_toInt value
  obtain ⟨n, ⟨shape, same⟩ | ⟨shape, same⟩⟩ := toList_toString_int value.toInt <;>
    rw [Nat.toString_eq_repr, Nat.toList_repr] at shape <;> rw [same] at item <;>
    rw [integerForm, shape]
  · refine ⟨(unmarked_digits isDigit_toDigits rest).dateTime?_eq_none, ?_⟩
    rw [number?_append isDigit_toDigits rest Nat.toDigits_ne_nil toDigits_eq_zero,
      signed?_append isDigit_toDigits rest Nat.toDigits_ne_nil toDigits_eq_zero]
    simp [valueOf_toDigits, item]
  · refine ⟨(unmarked_minus _).dateTime?_eq_none, ?_⟩
    rw [List.cons_append, number?,
      signed?_append isDigit_toDigits rest Nat.toDigits_ne_nil toDigits_eq_zero]
    simp [valueOf_toDigits, item]

end ScoringRules.Toml
