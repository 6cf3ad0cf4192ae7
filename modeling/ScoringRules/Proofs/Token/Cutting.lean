import ScoringRules.Proofs.Data.General
import ScoringRules.Proofs.Token.Boundary

/-!
The lexer accepts exactly the lexical grammar: a source gives tokens of certain kinds if and only
if it can be cut into their spellings, with gaps around them wherever two would run together.
-/

namespace ScoringRules

theorem Cut.lexeme_eq {first : Char} {more : List Char} {pieces : List Piece}
    (cut : Cut (first :: more) pieces) :
    ∃ piece behind rest, pieces = piece :: behind ∧
      Scan.lexeme first more = .token piece.kind (piece.text.length - 1) ∧
      (first :: more).drop piece.text.length = piece.gap ++ rest ∧ piece.text ≠ [] ∧
      Gap piece.gap rest ∧ Cut rest behind := by
  generalize shape : first :: more = source at cut
  cases cut with
  | nil => cases shape
  | @cons kind text gap rest pieces spelled between apart cut =>
    have nonempty : text ≠ [] := by
      obtain ⟨c, inner, rfl, -⟩ := TokenKind.opens_of_spells spelled
      exact List.cons_ne_nil c inner
    refine ⟨⟨kind, text, gap⟩, pieces, rest, rfl, ?_, ?_, nonempty, between, cut⟩
    · exact Scan.lexeme_of_spells shape spelled ((stops_iff_apart between cut).mpr apart)
    · exact List.drop_left

theorem cut_iff_of_token {first : Char} {rest : List Char} {kind : TokenKind} {more : Nat}
    (read : Scan.lexeme first rest = .token kind more) (kinds : List TokenKind) :
    (∃ pieces, Cut (first :: rest) pieces ∧ pieces.map Piece.kind = kinds) ↔
      ∃ others, kinds = kind :: others ∧ IsCut ((first :: rest).drop (more + 1)) others := by
  constructor
  · rintro ⟨pieces, cut, rfl⟩
    obtain ⟨piece, behind, last, rfl, lexeme, shape, nonempty, between, cut⟩ := cut.lexeme_eq
    obtain ⟨rfl, rfl⟩ := Scan.token.inj (read.symm.trans lexeme)
    have positive := List.length_pos_iff.mpr nonempty
    rw [Nat.sub_add_cancel positive, shape]
    exact ⟨_, rfl, piece.gap, last, behind, rfl, between, cut, rfl⟩
  · rintro ⟨others, rfl, gap, last, pieces, shape, between, cut, rfl⟩
    obtain ⟨text, behind, whole, length, spelled, stop⟩ := Scan.fronts_of_lexeme read
    rw [whole, ← length, List.drop_left] at shape
    subst shape
    refine ⟨⟨kind, text, gap⟩ :: pieces, ?_, rfl⟩
    rw [whole]
    exact .cons spelled between ((stops_iff_apart between cut).mp stop) cut

theorem cut_nil_iff {pieces : List Piece} : Cut [] pieces ↔ pieces = [] := by
  constructor
  · intro cut
    generalize shape : [] = source at cut
    cases cut with
    | nil => rfl
    | cons spelled =>
      obtain ⟨c, inner, rfl, -⟩ := TokenKind.opens_of_spells spelled
      cases shape
  · rintro rfl
    exact .nil

theorem isCut_single {kind : TokenKind} {text : List Char} (spelled : kind.Spells text) :
    IsCut text [kind] := by
  have cut : Cut _ [_] := .cons spelled .nil (fun _ _ => nofun) .nil
  rw [List.append_nil, List.append_nil] at cut
  exact ⟨[], _, _, rfl, .nil, cut, rfl⟩

namespace Cursor

section

variable {cursor : Cursor}

theorem tokenize_eq_of_end (ends : cursor.skipGap.rest = []) :
    cursor.tokenize = (.ok [⟨.endOfInput, cursor.skipGap.location⟩], cursor.skipGap) := by
  rw [tokenize]
  split
  · rfl
  · rename_i shape
    rw [ends] at shape
    cases shape

theorem tokenize_eq_of_fault {first : Char} {rest : List Char} {cause : LexFault} {skipped : Nat}
    (shape : cursor.skipGap.rest = first :: rest)
    (read : Scan.lexeme first rest = .fault cause skipped) :
    cursor.tokenize =
      (.error (.lexical cause cursor.skipGap.location), cursor.skipGap.advance skipped) := by
  rw [tokenize]
  split
  · rename_i ends
    rw [ends] at shape
    cases shape
  · rename_i c more same
    obtain ⟨rfl, rfl⟩ := List.cons.inj (same.symm.trans shape)
    rw [read]

theorem tokenize_eq_of_token {first : Char} {rest : List Char} {kind : TokenKind} {more : Nat}
    (shape : cursor.skipGap.rest = first :: rest)
    (read : Scan.lexeme first rest = .token kind more) :
    cursor.tokenize =
      ((cursor.skipGap.advance (more + 1)).tokenize.1.map (⟨kind, cursor.skipGap.location⟩ :: ·),
        (cursor.skipGap.advance (more + 1)).tokenize.2) := by
  rw [tokenize]
  split
  · rename_i ends
    rw [ends] at shape
    cases shape
  · rename_i c more same
    obtain ⟨rfl, rfl⟩ := List.cons.inj (same.symm.trans shape)
    rw [read]

theorem tokenize_of_end (ends : cursor.skipGap.rest = []) :
    cursor.tokenize.1 = .ok [⟨.endOfInput, cursor.skipGap.location⟩] := by
  rw [tokenize_eq_of_end ends]

theorem tokenize_of_fault {first : Char} {rest : List Char} {cause : LexFault} {skipped : Nat}
    (shape : cursor.skipGap.rest = first :: rest)
    (read : Scan.lexeme first rest = .fault cause skipped) :
    cursor.tokenize.1 = .error (.lexical cause cursor.skipGap.location) := by
  rw [tokenize_eq_of_fault shape read]

theorem tokenize_of_token {first : Char} {rest : List Char} {kind : TokenKind} {more : Nat}
    (shape : cursor.skipGap.rest = first :: rest)
    (read : Scan.lexeme first rest = .token kind more) :
    cursor.tokenize.1 = (cursor.skipGap.advance (more + 1)).tokenize.1.map
      (⟨kind, cursor.skipGap.location⟩ :: ·) := by
  rw [tokenize_eq_of_token shape read]

end

def Yields (cursor : Cursor) (kinds : List TokenKind) : Prop :=
  ∃ tokens, cursor.tokenize.1 = .ok tokens ∧ tokens.map Token.kind = kinds ++ [.endOfInput]

theorem yields_iff_of_end {cursor : Cursor} (ends : cursor.skipGap.rest = [])
    (kinds : List TokenKind) : cursor.Yields kinds ↔ kinds = [] := by
  unfold Yields
  rw [tokenize_of_end ends]
  constructor
  · rintro ⟨tokens, found, same⟩
    obtain rfl := Except.ok.inj found
    cases kinds with
    | nil => rfl
    | cons kind kinds => simp at same
  · rintro rfl
    exact ⟨_, rfl, rfl⟩

theorem yields_iff_of_token {cursor : Cursor} {first : Char} {rest : List Char} {kind : TokenKind}
    {more : Nat} (shape : cursor.skipGap.rest = first :: rest)
    (read : Scan.lexeme first rest = .token kind more) (kinds : List TokenKind) :
    cursor.Yields kinds ↔
      ∃ others, kinds = kind :: others ∧ (cursor.skipGap.advance (more + 1)).Yields others := by
  unfold Yields
  rw [tokenize_of_token shape read]
  constructor
  · rintro ⟨tokens, found, same⟩
    obtain ⟨others, behind, rfl⟩ := Except.map_eq_ok.mp found
    cases kinds with
    | nil => exact absurd (List.cons.inj same).1 (Scan.kind_ne_endOfInput read)
    | cons first kinds =>
      obtain ⟨rfl, others_eq⟩ := List.cons.inj same
      exact ⟨kinds, rfl, others, behind, others_eq⟩
  · rintro ⟨others, rfl, tokens, behind, same⟩
    rw [behind]
    refine ⟨_, rfl, ?_⟩
    rw [List.map_cons, same]
    rfl

theorem isCut_iff (cursor : Cursor) (kinds : List TokenKind) :
    IsCut cursor.rest kinds ↔
      ∃ pieces, Cut cursor.skipGap.rest pieces ∧ pieces.map Piece.kind = kinds := by
  constructor
  · rintro ⟨lead, rest, pieces, shape, between, cut, same⟩
    refine ⟨pieces, ?_, same⟩
    unfold skipGap advance
    rwa [shape, gapLength_eq_length between cut.fresh, List.drop_left]
  · rintro ⟨pieces, cut, same⟩
    exact ⟨_, _, pieces, (List.take_append_drop _ _).symm, (gap_take cursor.rest).1, cut, same⟩

theorem yields_iff_isCut (cursor : Cursor) (kinds : List TokenKind) :
    cursor.Yields kinds ↔ IsCut cursor.rest kinds := by
  rw [isCut_iff]
  induction cursor using tokenize.induct generalizing kinds with
  | case1 cursor here shape =>
    rw [yields_iff_of_end shape, shape]
    constructor
    · rintro rfl
      exact ⟨[], .nil, rfl⟩
    · rintro ⟨pieces, cut, rfl⟩
      rw [cut_nil_iff.mp cut]
      rfl
  | case2 cursor here first rest shape cause skipped read =>
    constructor
    · rintro ⟨tokens, found, -⟩
      rw [tokenize_of_fault shape read] at found
      cases found
    · rintro ⟨pieces, cut, -⟩
      rw [shape] at cut
      obtain ⟨_, _, _, _, lexeme, _⟩ := cut.lexeme_eq
      rw [read] at lexeme
      cases lexeme
  | case3 cursor here first rest shape kind more read _ _ _ ih =>
    rw [yields_iff_of_token shape read, shape, cut_iff_of_token read]
    refine exists_congr fun others => and_congr_right fun _ => ?_
    rw [ih, ← isCut_iff, ← shape]
    rfl

/-- The lexer gives tokens of some kinds, with the end of input behind them, if and only if the
source is cut into spellings of these kinds. -/
theorem tokenize_eq_ok_iff (source : String) (kinds : List TokenKind) :
    (∃ tokens, (ofString source).tokenize.1 = .ok tokens ∧
      tokens.map Token.kind = kinds ++ [.endOfInput]) ↔ IsCut source.toList kinds :=
  yields_iff_isCut (ofString source) kinds

end Cursor

end ScoringRules
