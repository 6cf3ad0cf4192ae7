import ScoringRules.Proofs.Token.Cutting

/-!
Reading that succeeds, one token after the other: where its tokens stand, what becomes of them when
the text starts at another place, and what two texts give that stand on lines of their own.
-/

namespace ScoringRules

def Token.relocate (f : Location → Location) (token : Token) : Token :=
  { token with location := f token.location }

@[simp] theorem Token.kind_relocate (f : Location → Location) (token : Token) :
    (token.relocate f).kind = token.kind := rfl

theorem line_after (place : Location) (text : List Char) :
    (place.after text).line = place.line + text.count '\n' := by
  induction text generalizing place with
  | nil => rfl
  | cons c text ih =>
    rw [Location.after_cons, ih, List.count_cons, Location.step]
    split
    · rename_i line
      subst line
      rw [if_pos (beq_self_eq_true _)]
      dsimp only
      omega
    · rename_i other
      rw [if_neg (by simpa using other)]
      rfl

def Location.down (characters lines : Nat) (place : Location) : Location :=
  ⟨place.position + characters, place.line + lines, place.column⟩

theorem Location.down_step (characters lines : Nat) (place : Location) (c : Char) :
    (place.step c).down characters lines = (place.down characters lines).step c := by
  unfold down step
  split <;> simp only [Location.mk.injEq, and_true] <;> omega

theorem Location.after_line (text : List Char) :
    start.after (text ++ ['\n']) = start.down (text.length + 1) (text.count '\n' + 1) := by
  have position := position_after start (text ++ ['\n'])
  have line := line_after start (text ++ ['\n'])
  rw [after_append] at position line ⊢
  rw [List.length_append] at position
  rw [List.count_append] at line
  change (⟨_, _, 1⟩ : Location) = ⟨_, _, 1⟩
  rw [Location.mk.injEq]
  exact ⟨position, line, rfl⟩

theorem gapLength_append_line (inComment : Bool) (before after : List Char) :
    gapLength inComment (before ++ '\n' :: after) =
      if gapLength inComment before < before.length then gapLength inComment before
      else before.length + 1 + gapLength false after := by
  induction before generalizing inComment with
  | nil =>
    have line : isBlank '\n' = true := by decide
    cases inComment <;> simp [gapLength, line, Nat.add_comm]
  | cons c before ih =>
    simp only [List.cons_append, gapLength, ih, List.length_cons]
    split
    · split <;> split <;> omega
    · split
      · split <;> split <;> omega
      · split
        · split <;> split <;> omega
        · rw [if_pos (Nat.succ_pos _)]

/-- No token goes on behind the end of a line that the text in front of it ends with. -/
theorem Scan.lexeme_append_line {first : Char} {rest : List Char} {kind : TokenKind} {more : Nat}
    (read : lexeme first rest = .token kind more) (after : List Char) :
    lexeme first (rest ++ '\n' :: after) = .token kind more := by
  obtain ⟨text, behind, shape, length, spelled, stop⟩ := fronts_of_lexeme read
  have longer : first :: (rest ++ '\n' :: after) = text ++ (behind ++ '\n' :: after) := by
    rw [← List.cons_append, shape, List.append_assoc]
  rw [lexeme_of_spells longer spelled ?_, length, Nat.add_sub_cancel]
  intro c next
  cases behind with
  | cons d more => exact stop c next
  | nil =>
    obtain rfl : '\n' = c := Option.some.inj next
    by_contra grows
    rw [Bool.not_eq_false] at grows
    exact absurd (TokenKind.fresh_of_growsBy grows).1 (by decide)

namespace Cursor

theorem after_advance (cursor : Cursor) (n : Nat) :
    (cursor.advance n).location.after (cursor.advance n).rest =
      cursor.location.after cursor.rest := by
  unfold advance
  rw [← Location.after_append, List.take_append_drop]

inductive Lexes : Cursor → List Token → Prop where
  | finish {cursor : Cursor} (ends : cursor.skipGap.rest = []) :
      Lexes cursor [⟨.endOfInput, cursor.skipGap.location⟩]
  | token {cursor : Cursor} {first : Char} {rest : List Char} {kind : TokenKind} {more : Nat}
      {tokens : List Token} (shape : cursor.skipGap.rest = first :: rest)
      (read : Scan.lexeme first rest = .token kind more)
      (behind : Lexes (cursor.skipGap.advance (more + 1)) tokens) :
      Lexes cursor (⟨kind, cursor.skipGap.location⟩ :: tokens)

theorem lexes_of_tokenize (cursor : Cursor) {tokens : List Token}
    (found : cursor.tokenize.1 = .ok tokens) : cursor.Lexes tokens := by
  induction cursor using tokenize.induct generalizing tokens
  case case1 cursor here shape =>
    rw [tokenize_of_end shape] at found
    obtain rfl := Except.ok.inj found
    exact .finish shape
  case case2 cursor here first rest shape cause skipped read =>
    rw [tokenize_of_fault shape read] at found
    cases found
  case case3 cursor here first rest shape kind more read _ _ _ ih =>
    rw [tokenize_of_token shape read] at found
    obtain ⟨others, behind, rfl⟩ := Except.map_eq_ok.mp found
    exact .token shape read (ih behind)

theorem tokenize_iff_lexes {cursor : Cursor} {tokens : List Token} :
    cursor.tokenize.1 = .ok tokens ↔ cursor.Lexes tokens := by
  refine ⟨lexes_of_tokenize cursor, fun lexes => ?_⟩
  induction lexes with
  | finish ends => exact tokenize_of_end ends
  | token shape read _ ih =>
    rw [tokenize_of_token shape read, ih]
    rfl

namespace Lexes

variable {cursor : Cursor} {tokens : List Token}

theorem ends (lexes : cursor.Lexes tokens) :
    ∃ inner finish, tokens = inner ++ [finish] ∧ finish.kind = .endOfInput ∧
      ∀ token ∈ inner, token.kind ≠ .endOfInput := by
  induction lexes with
  | finish ends => exact ⟨[], _, rfl, rfl, List.forall_mem_nil _⟩
  | token shape read _ ih =>
    obtain ⟨inner, finish, rfl, ends, inside⟩ := ih
    exact ⟨_ :: inner, finish, rfl, ends,
      List.forall_mem_cons.mpr ⟨Scan.kind_ne_endOfInput read, inside⟩⟩

theorem spelled (lexes : cursor.Lexes tokens) {token : Token} (member : token ∈ tokens)
    (real : token.kind ≠ .endOfInput) :
    ∃ before text after, cursor.rest = before ++ (text ++ after) ∧ token.kind.Spells text ∧
      token.location = cursor.location.after before := by
  induction lexes with
  | finish ends =>
    obtain rfl := List.mem_singleton.mp member
    exact absurd rfl real
  | @token cursor first rest kind more tokens shape read _ ih =>
    have split : cursor.rest = cursor.rest.take (gapLength false cursor.rest) ++
        (first :: rest) := by
      rw [← shape]
      exact (List.take_append_drop _ _).symm
    rcases List.mem_cons.mp member with rfl | member
    · obtain ⟨text, behind, whole, -, spelled, -⟩ := Scan.fronts_of_lexeme read
      exact ⟨_, text, behind, whole ▸ split, spelled, rfl⟩
    · obtain ⟨before, text, after, rest_eq, spelled, place⟩ := ih member
      refine ⟨cursor.rest.take (gapLength false cursor.rest) ++
        ((first :: rest).take (more + 1) ++ before), text, after, ?_, spelled, ?_⟩
      · change cursor.skipGap.rest.drop (more + 1) = _ at rest_eq
        rw [shape] at rest_eq
        rw [List.append_assoc, List.append_assoc, ← rest_eq, List.take_append_drop, ← split]
      · rw [place, Location.after_append, Location.after_append, ← shape]
        rfl

theorem of_skipGap {other : Cursor} (lexes : cursor.Lexes tokens)
    (same : other.skipGap = cursor.skipGap) : other.Lexes tokens := by
  cases lexes with
  | finish ends =>
    rw [← same] at ends ⊢
    exact .finish ends
  | token shape read behind =>
    rw [← same] at shape behind ⊢
    exact .token shape read behind

theorem relocate {f : Location → Location}
    (steps : ∀ place c, f (place.step c) = (f place).step c) (lexes : cursor.Lexes tokens) :
    Lexes ⟨f cursor.location, cursor.rest⟩ (tokens.map (Token.relocate f)) := by
  have moved (place : Location) (text : List Char) :
      f (place.after text) = (f place).after text := by
    induction text generalizing place with
    | nil => rfl
    | cons c text ih => rw [Location.after_cons, Location.after_cons, ih, steps]
  have skipped (cursor : Cursor) :
      (⟨f cursor.location, cursor.rest⟩ : Cursor).skipGap =
        ⟨f cursor.skipGap.location, cursor.skipGap.rest⟩ := by
    unfold skipGap advance
    rw [moved]
  induction lexes with
  | finish ends =>
    have last := Lexes.finish ((congrArg rest (skipped _)).trans ends)
    rwa [skipped] at last
  | @token cursor first rest kind more tokens shape read _ ih =>
    have behind : Lexes ((⟨f cursor.location, cursor.rest⟩ : Cursor).skipGap.advance (more + 1))
        (tokens.map (Token.relocate f)) := by
      rw [skipped]
      unfold advance at ih ⊢
      rwa [moved] at ih
    have here := Lexes.token ((congrArg Cursor.rest (skipped _)).trans shape) read behind
    rwa [skipped] at here

theorem append_line (lexes : cursor.Lexes tokens) {after : List Char} {others : List Token}
    (behind : Lexes ⟨cursor.location.after (cursor.rest ++ ['\n']), after⟩ others) :
    Lexes ⟨cursor.location, cursor.rest ++ '\n' :: after⟩ (tokens.dropLast ++ others) := by
  induction lexes with
  | @finish cursor ends =>
    -- The gap at the end of the source, be it a comment, ends with the line feed put behind it.
    have all : cursor.rest.length ≤ gapLength false cursor.rest := List.drop_eq_nil_iff.mp ends
    refine behind.of_skipGap ?_
    have split : cursor.rest ++ '\n' :: after = (cursor.rest ++ ['\n']) ++ after :=
      (List.append_cons _ _ _)
    have length : cursor.rest.length + 1 = (cursor.rest ++ ['\n']).length := by simp
    unfold skipGap advance
    rw [gapLength_append_line, if_neg (Nat.not_lt.mpr all), split, length,
      List.take_length_add_append, List.drop_length_add_append, ← Location.after_append]
  | @token cursor first rest kind more tokens shape read lexesBehind ih =>
    have inside : gapLength false cursor.rest < cursor.rest.length := by
      have nonempty : cursor.rest.drop (gapLength false cursor.rest) ≠ [] := by
        rw [show cursor.rest.drop (gapLength false cursor.rest) = _ from shape]
        exact List.cons_ne_nil _ _
      exact Nat.lt_of_not_le fun all => nonempty (List.drop_eq_nil_iff.mpr all)
    have skipped : (⟨cursor.location, cursor.rest ++ '\n' :: after⟩ : Cursor).skipGap =
        ⟨cursor.skipGap.location, cursor.skipGap.rest ++ '\n' :: after⟩ := by
      unfold skipGap advance
      rw [gapLength_append_line, if_pos inside, List.take_append_of_le_length (Nat.le_of_lt inside),
        List.drop_append_of_le_length (Nat.le_of_lt inside)]
    have within : more + 1 ≤ (first :: rest).length := by
      obtain ⟨text, behind, whole, length, -, -⟩ := Scan.fronts_of_lexeme read
      rw [whole, ← length, List.length_append]
      exact Nat.le_add_right _ _
    have nonempty : tokens ≠ [] := by
      obtain ⟨inner, finish, rfl, -, -⟩ := lexesBehind.ends
      simp
    rw [List.dropLast_cons_of_ne_nil nonempty, List.cons_append,
      ← congrArg location skipped]
    have shapeLonger := (congrArg Cursor.rest skipped).trans
      (congrArg (· ++ '\n' :: after) shape)
    refine .token shapeLonger (Scan.lexeme_append_line read after) ?_
    rw [skipped]
    have place := after_advance cursor.skipGap (more + 1)
    have placeToo := after_advance cursor (gapLength false cursor.rest)
    have next := ih (by
      rw [Location.after_append, place]
      unfold skipGap
      rwa [placeToo, ← Location.after_append])
    unfold advance at next ⊢
    rw [shape] at next ⊢
    rwa [List.take_append_of_le_length within, List.drop_append_of_le_length within]

end Lexes

end Cursor

end ScoringRules
