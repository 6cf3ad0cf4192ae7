import Mathlib.Data.List.Basic
import Mathlib.Data.List.TakeWhile

/-!
Facts on lists, and on results that may be errors, that say nothing of rules or their code.
-/

namespace ScoringRules

theorem findSome?_cons_eq_or (defect : α → Option β) (first : α) (rest : List α) :
    (first :: rest).findSome? defect = (defect first).or (rest.findSome? defect) := by
  rw [List.findSome?_cons]
  cases defect first <;> rfl

theorem findSome?_flatMap (f : β → Option γ) (g : α → List β) (items : List α) :
    (items.flatMap g).findSome? f = items.findSome? fun item => (g item).findSome? f := by
  induction items with
  | nil => rfl
  | cons first rest ih =>
    rw [List.flatMap_cons, List.findSome?_append, ih, findSome?_cons_eq_or]

theorem getElem?_filterMap {f : α → Option β} {list : List α} {index : Nat} {a : α} {b : β}
    (placed : list[index]? = some a) (found : f a = some b) :
    (list.filterMap f)[(list.take index).countP fun a => (f a).isSome]? = some b := by
  induction list generalizing index with
  | nil => cases placed
  | cons first rest ih =>
    cases index with
    | zero =>
      obtain rfl := Option.some.inj placed
      simp [found]
    | succ index =>
      have behind := ih placed
      cases here : f first <;> simpa [here] using behind

theorem subset_of_flatMap_subset {f : α → List β} {list : List α} {whole : List β}
    (inside : list.flatMap f ⊆ whole) {a : α} (member : a ∈ list) : f a ⊆ whole :=
  fun _ within => inside (List.mem_flatMap.mpr ⟨a, member, within⟩)

theorem head?_filter_of_pairwise {list : List Nat} (ascends : list.Pairwise (· < ·))
    {p : Nat → Bool} {n : Nat} : (list.filter p).head? = some n ↔
      n ∈ list ∧ p n = true ∧ ∀ other ∈ list, p other = true → n ≤ other := by
  have kept : (list.filter p).Pairwise (· < ·) := ascends.filter p
  constructor
  · intro first
    obtain ⟨rest, shape⟩ := List.head?_eq_some_iff.mp first
    obtain ⟨member, holds⟩ := List.mem_filter.mp (shape ▸ List.mem_cons_self)
    refine ⟨member, holds, fun other inside holdsToo => ?_⟩
    rw [shape] at kept
    rcases List.mem_cons.mp (shape ▸ List.mem_filter.mpr ⟨inside, holdsToo⟩) with rfl | later
    · exact Nat.le_refl _
    · exact Nat.le_of_lt (List.rel_of_pairwise_cons kept later)
  · rintro ⟨member, holds, least⟩
    have inside : n ∈ list.filter p := List.mem_filter.mpr ⟨member, holds⟩
    obtain ⟨first, rest, shape⟩ := List.exists_cons_of_ne_nil (List.ne_nil_of_mem inside)
    rw [shape] at kept inside ⊢
    rcases List.mem_cons.mp inside with rfl | later
    · rfl
    · obtain ⟨memberToo, holdsToo⟩ := List.mem_filter.mp (shape ▸ List.mem_cons_self)
      have below := List.rel_of_pairwise_cons kept later
      exact absurd (least first memberToo holdsToo) (Nat.not_le.mpr below)

theorem eraseDups_concat [DecidableEq α] (list : List α) (a : α) :
    (list ++ [a]).eraseDups =
      if a ∈ list.eraseDups then list.eraseDups else list.eraseDups ++ [a] := by
  rw [List.eraseDups_append]
  by_cases member : a ∈ list <;> simp [List.removeAll, member, List.eraseDups_cons]

theorem eraseDups_isPrefix [DecidableEq α] {list longer : List α} (front : list <+: longer) :
    list.eraseDups <+: longer.eraseDups := by
  obtain ⟨rest, rfl⟩ := front
  rw [List.eraseDups_append]
  exact List.prefix_append _ _

theorem stop_dropWhile {p : α → Bool} {source : List α} :
    ∀ a ∈ (source.dropWhile p).head?, p a = false := by
  intro a next
  have stop := List.head?_dropWhile_not p source
  rw [next] at stop
  simpa using stop

theorem takeWhile_append_of_stop {p : α → Bool} {front behind : List α}
    (inside : ∀ a ∈ front, p a = true) (stop : ∀ a ∈ behind.head?, p a = false) :
    (front ++ behind).takeWhile p = front := by
  rw [List.takeWhile_append_of_pos inside]
  cases behind with
  | nil => simp
  | cons a rest => simp [stop a rfl]

theorem dropWhile_append_of_stop {p : α → Bool} {front behind : List α}
    (inside : ∀ a ∈ front, p a = true) (stop : ∀ a ∈ behind.head?, p a = false) :
    (front ++ behind).dropWhile p = behind := by
  rw [List.dropWhile_append_of_pos inside]
  cases behind with
  | nil => rfl
  | cons a rest => simp [stop a rfl]

theorem eq_of_append_stop {stop : α} {front other s t : List α} (absent : stop ∉ front)
    (absentToo : stop ∉ other) (same : front ++ stop :: s = other ++ stop :: t) :
    front = other ∧ s = t := by
  induction front generalizing other with
  | nil =>
    cases other with
    | nil => exact ⟨rfl, (List.cons.inj same).2⟩
    | cons b rest => exact absurd (List.mem_cons.mpr (.inl (List.cons.inj same).1)) absentToo
  | cons a front ih =>
    cases other with
    | nil => exact absurd (List.mem_cons.mpr (.inl (List.cons.inj same).1.symm)) absent
    | cons b rest =>
      obtain ⟨rfl, tails⟩ := List.cons.inj same
      obtain ⟨rfl, behind⟩ := ih (fun inside => absent (List.mem_cons_of_mem _ inside))
        (fun inside => absentToo (List.mem_cons_of_mem _ inside)) tails
      exact ⟨rfl, behind⟩

namespace Except

theorem bind_eq_ok {result : Except ε α} {next : α → Except ε β} {value : β} :
    (result >>= next) = .ok value ↔ ∃ a, result = .ok a ∧ next a = .ok value := by
  cases result <;> simp [bind, Except.bind]

theorem bind_eq_error {result : Except ε α} {next : α → Except ε β} {error : ε} :
    (result >>= next) = .error error ↔
      result = .error error ∨ ∃ a, result = .ok a ∧ next a = .error error := by
  cases result <;> simp [bind, Except.bind]

theorem map_eq_ok {result : Except ε α} {f : α → β} {b : β} :
    result.map f = .ok b ↔ ∃ a, result = .ok a ∧ f a = b := by
  cases result <;> simp [Except.map]

theorem map_eq_error {result : Except ε α} {f : α → β} {error : ε} :
    result.map f = .error error ↔ result = .error error := by
  cases result <;> simp [Except.map]

theorem map_mapError_not (f : ε → δ) (result : Except ε Bool) (answer : Bool → α) :
    (Except.mapError f (return !(← result))).map answer =
      (result.mapError f).map fun value => answer !value := by
  cases result <;> rfl

end Except

end ScoringRules
