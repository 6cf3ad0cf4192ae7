import Mathlib
import ScoringRules.Proofs.Token.Reading

/-!
Reading that fails: what stands in front of the fault would have given the same tokens on its own.
-/

namespace ScoringRules

theorem gapLength_eq_min (inComment : Bool) (before behind : List Char) :
    gapLength inComment before = min before.length (gapLength inComment (before ++ behind)) := by
  induction before generalizing inComment with
  | nil => simp [gapLength]
  | cons c before ih =>
    simp only [List.cons_append, gapLength, List.length_cons]
    split
    · rw [ih]
      omega
    · split
      · rw [ih]
        omega
      · split
        · rw [ih]
          omega
        · omega

theorem gapLength_le (inComment : Bool) (text : List Char) :
    gapLength inComment text ≤ text.length := by
  have cut := gapLength_eq_min inComment text []
  omega

theorem Scan.lexeme_cut {first : Char} {rest before behind : List Char} {kind : TokenKind}
    {more : Nat} (read : lexeme first rest = .token kind more)
    (split : rest.drop more = before ++ behind) :
    ∃ text, rest = text ++ (before ++ behind) ∧ text.length = more ∧
      lexeme first (text ++ before) = .token kind more := by
  obtain ⟨spelling, rear, whole, length, spelled, stop⟩ := fronts_of_lexeme read
  obtain ⟨text, rfl⟩ : ∃ text, spelling = first :: text := by
    cases spelling with
    | nil => cases length
    | cons c text => exact ⟨text, by rw [(List.cons.inj whole).1]⟩
  obtain rfl : text.length = more := Nat.succ.inj length
  obtain rfl : rest = text ++ rear := (List.cons.inj whole).2
  rw [List.drop_left] at split
  subst split
  refine ⟨text, rfl, rfl, lexeme_of_spells rfl spelled fun c next => stop c ?_⟩
  cases before with
  | nil => cases next
  | cons d before => exact next

namespace Cursor

theorem length_advance_skipGap {cursor : Cursor} {first : Char} {rest : List Char}
    (shape : cursor.skipGap.rest = first :: rest) (more : Nat) :
    (cursor.skipGap.advance (more + 1)).rest.length < cursor.rest.length := by
  have shorter : cursor.skipGap.rest.length ≤ cursor.rest.length := by simp [skipGap]
  rw [length_rest_advance]
  rw [shape] at shorter ⊢
  rw [List.length_cons] at shorter ⊢
  omega

/-- The tokens that a call makes before it ends or fails. -/
def produced (cursor : Cursor) : List Token :=
  match _shape : cursor.skipGap.rest with
  | [] => [⟨.endOfInput, cursor.skipGap.location⟩]
  | c :: rest =>
    match Scan.lexeme c rest with
    | .fault _ _ => []
    | .token kind more =>
      ⟨kind, cursor.skipGap.location⟩ :: produced (cursor.skipGap.advance (more + 1))
termination_by cursor.rest.length
decreasing_by exact length_advance_skipGap _shape more

section

variable {cursor : Cursor}

theorem produced_of_end (ends : cursor.skipGap.rest = []) :
    cursor.produced = [⟨.endOfInput, cursor.skipGap.location⟩] := by
  rw [produced]
  split
  · rfl
  · rename_i shape
    rw [ends] at shape
    cases shape

theorem produced_of_fault {first : Char} {rest : List Char} {cause : LexFault} {skipped : Nat}
    (shape : cursor.skipGap.rest = first :: rest)
    (read : Scan.lexeme first rest = .fault cause skipped) : cursor.produced = [] := by
  rw [produced]
  split
  · rename_i ends
    rw [ends] at shape
    cases shape
  · rename_i c more same
    obtain ⟨rfl, rfl⟩ := List.cons.inj (same.symm.trans shape)
    rw [read]

theorem produced_of_token {first : Char} {rest : List Char} {kind : TokenKind} {more : Nat}
    (shape : cursor.skipGap.rest = first :: rest)
    (read : Scan.lexeme first rest = .token kind more) :
    cursor.produced =
      ⟨kind, cursor.skipGap.location⟩ :: (cursor.skipGap.advance (more + 1)).produced := by
  rw [produced]
  split
  · rename_i ends
    rw [ends] at shape
    cases shape
  · rename_i c more same
    obtain ⟨rfl, rfl⟩ := List.cons.inj (same.symm.trans shape)
    rw [read]

end

theorem Lexes.produced_eq {cursor : Cursor} {tokens : List Token} (lexes : cursor.Lexes tokens) :
    cursor.produced = tokens := by
  induction lexes with
  | finish ends => exact produced_of_end ends
  | token shape read _ ih => rw [produced_of_token shape read, ih]

theorem advance_append (place : Location) (text front : List Char) :
    (⟨place, text ++ front⟩ : Cursor).advance text.length = ⟨place.after text, front⟩ := by
  unfold advance
  rw [List.take_left, List.drop_left]

theorem skipGap_cut {cursor : Cursor} {front behind : List Char}
    (split : cursor.skipGap.rest = front ++ behind) :
    (⟨cursor.location, cursor.rest.take (gapLength false cursor.rest) ++ front⟩ : Cursor).skipGap =
      ⟨cursor.skipGap.location, front⟩ := by
  have whole : (cursor.rest.take (gapLength false cursor.rest) ++ front) ++ behind =
      cursor.rest := by
    rw [List.append_assoc, ← split]
    exact List.take_append_drop _ _
  have taken : (cursor.rest.take (gapLength false cursor.rest)).length =
      gapLength false cursor.rest :=
    List.length_take_of_le (gapLength_le _ _)
  have same : gapLength false (cursor.rest.take (gapLength false cursor.rest) ++ front) =
      (cursor.rest.take (gapLength false cursor.rest)).length := by
    rw [gapLength_eq_min _ _ behind, whole, List.length_append, taken]
    omega
  unfold skipGap
  rw [same, advance_append]
  rfl

/-- Reading goes the same way to a token where the text is cut off behind it. -/
theorem Lexes.cut {cursor : Cursor} {first : Char} {rest before behind : List Char}
    {kind : TokenKind} {more : Nat} {tokens : List Token}
    (shape : cursor.skipGap.rest = first :: rest)
    (read : Scan.lexeme first rest = .token kind more)
    (split : (cursor.skipGap.advance (more + 1)).rest = before ++ behind)
    (lexes : Lexes ⟨(cursor.skipGap.advance (more + 1)).location, before⟩ tokens) :
    ∃ front, cursor.rest = front ++ behind ∧
      cursor.location.after front =
        (cursor.skipGap.advance (more + 1)).location.after before ∧
      Lexes ⟨cursor.location, front⟩ (⟨kind, cursor.skipGap.location⟩ :: tokens) := by
  have here : cursor.skipGap = ⟨cursor.skipGap.location, first :: rest⟩ := by rw [← shape]
  obtain ⟨text, rfl, rfl, alone⟩ : ∃ text, rest = text ++ (before ++ behind) ∧
      text.length = more ∧ Scan.lexeme first (text ++ before) = .token kind more := by
    rw [here] at split
    exact Scan.lexeme_cut read split
  have onward (front : List Char) :
      (⟨cursor.skipGap.location, first :: text ++ front⟩ : Cursor).advance (text.length + 1) =
        ⟨cursor.skipGap.location.after (first :: text), front⟩ :=
    advance_append cursor.skipGap.location (first :: text) front
  have reached : (cursor.skipGap.advance (text.length + 1)).location =
      cursor.skipGap.location.after (first :: text) := by
    rw [here]
    exact congrArg Cursor.location (onward (before ++ behind))
  have rear : cursor.skipGap.rest = (first :: text ++ before) ++ behind := by
    rw [shape, List.append_assoc]
    rfl
  have cut := skipGap_cut rear
  refine ⟨cursor.rest.take (gapLength false cursor.rest) ++ (first :: text ++ before), ?_, ?_, ?_⟩
  · rw [List.append_assoc, ← rear]
    exact (List.take_append_drop _ _).symm
  · rw [reached, Location.after_append, Location.after_append]
    rfl
  · rw [reached, ← onward before, ← cut] at lexes
    have next := Lexes.token (congrArg Cursor.rest cut) alone lexes
    rwa [cut] at next

theorem lexes_of_error {cursor : Cursor} {error : CompileError}
    (failed : cursor.tokenize.1 = .error error) :
    ∃ before first rest cause skipped, cursor.rest = before ++ first :: rest ∧
      Scan.lexeme first rest = .fault cause skipped ∧
      error = .lexical cause (cursor.location.after before) ∧
      Lexes ⟨cursor.location, before⟩
        (cursor.produced ++ [⟨.endOfInput, cursor.location.after before⟩]) := by
  induction cursor using tokenize.induct
  case case1 cursor here shape =>
    rw [tokenize_of_end shape] at failed
    cases failed
  case case2 cursor here first rest shape cause skipped read =>
    rw [tokenize_of_fault shape read] at failed
    obtain rfl := Except.error.inj failed
    refine ⟨cursor.rest.take (gapLength false cursor.rest), first, rest, cause, skipped, ?_, read,
      rfl, ?_⟩
    · rw [← shape]
      exact (List.take_append_drop _ _).symm
    · have nothing : cursor.skipGap.rest = [] ++ first :: rest := shape
      have cut := skipGap_cut nothing
      rw [List.append_nil] at cut
      rw [produced_of_fault shape read]
      have finish := Lexes.finish (congrArg Cursor.rest cut)
      rw [cut] at finish
      exact finish
  case case3 cursor here first rest shape kind more read _ _ _ ih =>
    rw [tokenize_of_token shape read, Except.map_eq_error] at failed
    obtain ⟨before, next, last, cause, skipped, split, fault, rfl, lexes⟩ := ih failed
    obtain ⟨front, whole, place, lexes⟩ := lexes.cut shape read split
    refine ⟨front, next, last, cause, skipped, whole, fault, by rw [place], ?_⟩
    rw [produced_of_token shape read, place]
    exact lexes

/-- A fault is local: the characters in front of its place give, on their own, the tokens that were
read up to there and the end of input, and at its place there is no lexeme. -/
theorem tokenize_take_of_error {source : String} {error : CompileError}
    (failed : (ofString source).tokenize.1 = .error error) :
    ∃ cause location, error = .lexical cause location ∧
      (∃ first rest skipped, source.toList.drop location.position = first :: rest ∧
        Scan.lexeme first rest = .fault cause skipped) ∧
      (ofString (String.ofList (source.toList.take location.position))).tokenize.1 =
        .ok ((ofString source).produced ++ [⟨.endOfInput, location⟩]) := by
  obtain ⟨before, first, rest, cause, skipped, split, read, rfl, lexes⟩ := lexes_of_error failed
  have position : ((ofString source).location.after before).position = before.length :=
    (Location.position_after _ _).trans (Nat.zero_add _)
  change source.toList = _ at split
  refine ⟨cause, _, rfl, ⟨first, rest, skipped, ?_, read⟩, ?_⟩
  · rw [position, split, List.drop_left]
  · rw [position, split, List.take_left, tokenize_iff_lexes]
    unfold ofString at lexes ⊢
    rwa [String.toList_ofList]

theorem tokenize_take_of_error_string :
    let source := "# x\nexit \"b"
    ∃ cause location, CompileError.lexical .unterminatedString ⟨9, 2, 6⟩ = .lexical cause location ∧
      (∃ first rest skipped, source.toList.drop location.position = first :: rest ∧
        Scan.lexeme first rest = .fault cause skipped) ∧
      (ofString (String.ofList (source.toList.take location.position))).tokenize.1 =
        .ok ((ofString source).produced ++ [⟨.endOfInput, location⟩]) :=
  tokenize_take_of_error (by cbv)

end Cursor

end ScoringRules
