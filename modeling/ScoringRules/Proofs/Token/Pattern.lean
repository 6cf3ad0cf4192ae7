import ScoringRules.Proofs.Token.Cutting

/-!
The patterns that can be written between slashes. A literal gives up the backslash in front of a
slash and keeps any other, so a pattern with a backslash of its own in front of a slash has no
literal; every other pattern has one, in which its slashes are escaped.
-/

namespace ScoringRules

/-- A pattern from left to right, each backslash taken together with the character behind it. -/
def patternUnits : List Char → List (List Char)
  | [] => []
  | ['\\'] => [['\\']]
  | '\\' :: c :: rest => ['\\', c] :: patternUnits rest
  | c :: rest => [c] :: patternUnits rest

/-- No backslash is paired with a slash, and none is left alone at the end. -/
def IsWritable (pattern : List Char) : Prop :=
  ['\\', '/'] ∉ patternUnits pattern ∧ ['\\'] ∉ patternUnits pattern

instance (pattern : List Char) : Decidable (IsWritable pattern) :=
  inferInstanceAs (Decidable (_ ∧ _))

def escapeSlashes (pattern : List Char) : List Char :=
  pattern.flatMap fun c => if c = '/' then ['\\', '/'] else [c]

theorem patternUnits_cons {c : Char} (other : c ≠ '\\') (rest : List Char) :
    patternUnits (c :: rest) = [c] :: patternUnits rest := by
  cases rest <;> simp [patternUnits, other]

theorem isWritable_cons {c : Char} (other : c ≠ '\\') {rest : List Char} :
    IsWritable (c :: rest) ↔ IsWritable rest := by
  simp [IsWritable, patternUnits_cons other, other.symm]

theorem isWritable_escaped {c : Char} {rest : List Char} :
    IsWritable ('\\' :: c :: rest) ↔ c ≠ '/' ∧ IsWritable rest := by
  simp [IsWritable, patternUnits, and_assoc, eq_comm]

theorem escapeSlashes_cons {c : Char} (other : c ≠ '/') (rest : List Char) :
    escapeSlashes (c :: rest) = c :: escapeSlashes rest := by
  simp [escapeSlashes, other]

theorem escapeSlashes_slash (rest : List Char) :
    escapeSlashes ('/' :: rest) = '\\' :: '/' :: escapeSlashes rest :=
  rfl

namespace RegexBody

variable {pattern spelled : List Char}

theorem isWritable (body : RegexBody pattern spelled) : IsWritable pattern := by
  induction body with
  | nil => decide
  | plain c delimits escapes _ ih => exact (isWritable_cons escapes).mpr ih
  | slash _ ih => exact (isWritable_cons (by decide)).mpr ih
  | escaped c other _ ih => exact isWritable_escaped.mpr ⟨other, ih⟩

theorem of_isWritable (writable : IsWritable pattern) :
    RegexBody pattern (escapeSlashes pattern) := by
  fun_induction patternUnits pattern with
  | case1 => exact .nil
  | case2 => exact absurd writable (by decide)
  | case3 c rest ih =>
    obtain ⟨other, writable⟩ := isWritable_escaped.mp writable
    rw [escapeSlashes_cons (by decide), escapeSlashes_cons other]
    exact .escaped c other (ih writable)
  | case4 c rest ends escapes ih =>
    have other : c ≠ '\\' := by
      rintro rfl
      cases rest with
      | nil => exact ends rfl rfl
      | cons next more => exact escapes next more rfl rfl
    have behind := ih ((isWritable_cons other).mp writable)
    by_cases slash : c = '/'
    · subst slash
      rw [escapeSlashes_slash]
      exact .slash behind
    · rw [escapeSlashes_cons slash]
      exact .plain c slash other behind

end RegexBody

namespace Cursor

theorem exists_body_of_isCut {source : List Char} {pattern : String}
    (isCut : IsCut source [.regex pattern]) : ∃ spelled, RegexBody pattern.toList spelled := by
  obtain ⟨lead, rest, pieces, -, -, cut, same⟩ := isCut
  cases cut with
  | nil => cases same
  | cons spelled between apart cut =>
    obtain ⟨rfl, -⟩ := List.cons.inj same
    obtain ⟨spelled, body, -⟩ := spelled
    exact ⟨spelled, body⟩

/-- A text that is read as one literal of a pattern exists if and only if the pattern is writable,
and then its characters between slashes, with the slashes among them escaped, are such a text. -/
theorem exists_literal_iff (pattern : String) :
    ((∃ source, (ofString source).Yields [.regex pattern]) ↔ IsWritable pattern.toList) ∧
    (IsWritable pattern.toList →
      (ofString (String.ofList ('/' :: escapeSlashes pattern.toList ++ ['/']))).Yields
        [.regex pattern]) := by
  have literal (writable : IsWritable pattern.toList) :
      (ofString (String.ofList ('/' :: escapeSlashes pattern.toList ++ ['/']))).Yields
        [.regex pattern] := by
    rw [yields_iff_isCut, ofString, String.toList_ofList]
    exact isCut_single ⟨_, .of_isWritable writable, rfl⟩
  refine ⟨⟨?_, fun writable => ⟨_, literal writable⟩⟩, literal⟩
  rintro ⟨source, yields⟩
  obtain ⟨spelled, body⟩ := exists_body_of_isCut ((yields_iff_isCut _ _).mp yields)
  exact body.isWritable

example : IsWritable ['\\', '\\', '/'] ∧ ¬ IsWritable ['\\', '\\', '\\', '/'] := by decide

end Cursor

end ScoringRules
