import ScoringRules.Proofs.Token.Fault

/-!
Where tokens and faults are. A lexer may be called again behind the end of input or behind a fault;
the places that its calls report are those of their characters in the text, and over all calls they
go on from one token to the next.
-/

namespace ScoringRules

namespace Location

/-- A place in a text: the characters in front of it are counted, its line by the line feeds among
them, and its column behind the last of these. -/
structure In (place : Location) (text : List Char) : Prop where
  position : place.position ≤ text.length
  line : place.line = 1 + (text.take place.position).count '\n'
  column : place.column = 1 + ((text.take place.position).rtakeWhile (· ≠ '\n')).length

theorem column_after (text : List Char) :
    (start.after text).column = 1 + (text.rtakeWhile (· ≠ '\n')).length := by
  induction text using List.reverseRecOn with
  | nil => rfl
  | append_singleton text c ih =>
    rw [after_append, after_cons, after_nil, step]
    by_cases line : c = '\n'
    · rw [if_pos line, List.rtakeWhile_concat_neg _ _ _ (by simpa using line)]
      rfl
    · rw [if_neg line, List.rtakeWhile_concat_pos _ _ _ (by simpa using line), List.length_append]
      change _ + 1 = _
      rw [ih]
      rfl

theorem position_start_after (text : List Char) : (start.after text).position = text.length :=
  (position_after start text).trans (Nat.zero_add _)

theorem in_start_after (before behind : List Char) :
    (start.after before).In (before ++ behind) := by
  have front : (before ++ behind).take (start.after before).position = before := by
    rw [position_start_after, List.take_left]
  refine ⟨?_, ?_, ?_⟩
  · rw [position_start_after, List.length_append]
    exact Nat.le_add_right _ _
  · rw [front, line_after]
    rfl
  · rw [front, column_after]

end Location

/-- A token stands in a text: its spelling starts at its place, and the end of input is at the end
of the text. -/
structure Token.In (token : Token) (text : List Char) : Prop where
  place : token.location.In text
  spelled : token.kind ≠ .endOfInput →
    ∃ spelling, spelling <+: text.drop token.location.position ∧ token.kind.Spells spelling
  ends : token.kind = .endOfInput → token.location.position = text.length

namespace Cursor

/-- Where the first calls on one lexer begin: each one where the call before it stopped. -/
def calls : Nat → Cursor → List Cursor
  | 0, _ => []
  | count + 1, cursor => cursor :: calls count cursor.tokenize.2

def In (cursor : Cursor) (text : List Char) : Prop :=
  ∃ before, text = before ++ cursor.rest ∧ cursor.location = Location.start.after before

theorem in_ofString (source : String) : (ofString source).In source.toList :=
  ⟨[], rfl, rfl⟩

namespace In

variable {cursor : Cursor} {text : List Char}

theorem advance (stands : cursor.In text) (n : Nat) : (cursor.advance n).In text := by
  obtain ⟨before, rfl, place⟩ := stands
  refine ⟨before ++ cursor.rest.take n, ?_, ?_⟩
  · rw [List.append_assoc]
    exact congrArg (before ++ ·) (List.take_append_drop n cursor.rest).symm
  · rw [Location.after_append, ← place]
    rfl

theorem skipGap (stands : cursor.In text) : cursor.skipGap.In text :=
  stands.advance _

theorem place (stands : cursor.In text) : cursor.location.In text := by
  obtain ⟨before, rfl, place⟩ := stands
  rw [place]
  exact Location.in_start_after before cursor.rest

theorem drop_eq (stands : cursor.In text) : text.drop cursor.location.position = cursor.rest := by
  obtain ⟨before, rfl, place⟩ := stands
  rw [place, Location.position_start_after, List.drop_left]

theorem ends (stands : cursor.In text) (nothing : cursor.rest = []) :
    (⟨.endOfInput, cursor.location⟩ : Token).In text := by
  refine ⟨stands.place, fun real => absurd rfl real, fun _ => ?_⟩
  obtain ⟨before, rfl, place⟩ := stands
  rw [nothing, List.append_nil]
  exact place ▸ Location.position_start_after before

theorem token (stands : cursor.In text) {first : Char} {rest : List Char} {kind : TokenKind}
    {more : Nat} (shape : cursor.rest = first :: rest)
    (read : Scan.lexeme first rest = .token kind more) :
    (⟨kind, cursor.location⟩ : Token).In text := by
  obtain ⟨spelling, behind, whole, -, spelled, -⟩ := Scan.fronts_of_lexeme read
  refine ⟨stands.place, fun _ => ⟨spelling, ?_, spelled⟩,
    fun ends => absurd ends (Scan.kind_ne_endOfInput read)⟩
  rw [stands.drop_eq, shape, whole]
  exact List.prefix_append _ _

theorem produced (stands : cursor.In text) : ∀ token ∈ cursor.produced, token.In text := by
  induction cursor using tokenize.induct
  case case1 cursor here shape =>
    rw [produced_of_end shape]
    exact List.forall_mem_singleton.mpr (stands.skipGap.ends shape)
  case case2 cursor here first rest shape cause skipped read =>
    rw [produced_of_fault shape read]
    exact List.forall_mem_nil _
  case case3 cursor here first rest shape kind more read _ _ _ ih =>
    rw [produced_of_token shape read]
    exact List.forall_mem_cons.mpr
      ⟨stands.skipGap.token shape read, ih (stands.skipGap.advance _)⟩

theorem stop (stands : cursor.In text) : cursor.tokenize.2.In text := by
  induction cursor using tokenize.induct
  case case1 cursor here shape =>
    rw [tokenize_eq_of_end shape]
    exact stands.skipGap
  case case2 cursor here first rest shape cause skipped read =>
    rw [tokenize_eq_of_fault shape read]
    exact stands.skipGap.advance _
  case case3 cursor here first rest shape kind more read _ _ _ ih =>
    rw [tokenize_eq_of_token shape read]
    exact ih (stands.skipGap.advance _)

theorem fault (stands : cursor.In text) {error : CompileError}
    (failed : cursor.tokenize.1 = .error error) :
    ∃ cause location, error = .lexical cause location ∧ location.In text := by
  obtain ⟨before, first, rest, cause, skipped, split, -, rfl, -⟩ := lexes_of_error failed
  obtain ⟨front, rfl, place⟩ := stands
  refine ⟨cause, _, rfl, ?_⟩
  rw [place, ← Location.after_append, split, ← List.append_assoc]
  exact Location.in_start_after (front ++ before) (first :: rest)

theorem of_mem_calls {count : Nat} {later : Cursor} (stands : cursor.In text)
    (member : later ∈ calls count cursor) : later.In text := by
  induction count generalizing cursor with
  | zero => cases member
  | succ count ih =>
    rcases List.mem_cons.mp member with rfl | member
    · exact stands
    · exact ih stands.stop member

end In

structure Ascends (low high : Nat) (tokens : List Token) : Prop where
  le : low ≤ high
  sorted : tokens.Pairwise fun first second => first.location.position < second.location.position
  inside : ∀ token ∈ tokens, low ≤ token.location.position ∧ token.location.position < high

namespace Ascends

theorem nil {low high : Nat} (le : low ≤ high) : Ascends low high [] :=
  ⟨le, .nil, List.forall_mem_nil _⟩

theorem singleton {low high : Nat} (token : Token) (behind : low ≤ token.location.position)
    (before : token.location.position < high) : Ascends low high [token] :=
  ⟨behind.trans before.le, List.pairwise_singleton _ _,
    List.forall_mem_singleton.mpr ⟨behind, before⟩⟩

theorem append {low middle high : Nat} {first second : List Token}
    (early : Ascends low middle first) (late : Ascends middle high second) :
    Ascends low high (first ++ second) := by
  refine ⟨early.le.trans late.le, ?_, ?_⟩
  · refine List.pairwise_append.mpr ⟨early.sorted, late.sorted, fun a inFirst b inSecond => ?_⟩
    exact (early.inside a inFirst).2.trans_le (late.inside b inSecond).1
  · refine List.forall_mem_append.mpr ⟨fun token member => ?_, fun token member => ?_⟩
    · have bounds := early.inside token member
      exact ⟨bounds.1, bounds.2.trans_le late.le⟩
    · have bounds := late.inside token member
      exact ⟨early.le.trans bounds.1, bounds.2⟩

end Ascends

def real (tokens : List Token) : List Token :=
  tokens.filter (·.kind ≠ .endOfInput)

theorem position_le_advance (cursor : Cursor) (n : Nat) :
    cursor.location.position ≤ (cursor.advance n).location.position := by
  unfold advance
  rw [Location.position_after]
  exact Nat.le_add_right _ _

theorem position_lt_advance {cursor : Cursor} {first : Char} {rest : List Char}
    (shape : cursor.rest = first :: rest) (more : Nat) :
    cursor.location.position < (cursor.advance (more + 1)).location.position := by
  unfold advance
  rw [Location.position_after, shape, List.take_succ_cons, List.length_cons]
  omega

theorem ascends_produced (cursor : Cursor) :
    Ascends cursor.location.position cursor.tokenize.2.location.position
      (real cursor.produced) := by
  induction cursor using tokenize.induct
  case case1 cursor here shape =>
    rw [tokenize_eq_of_end shape, produced_of_end shape]
    exact .nil (cursor.position_le_advance _)
  case case2 cursor here first rest shape cause skipped read =>
    rw [tokenize_eq_of_fault shape read, produced_of_fault shape read]
    exact .nil ((cursor.position_le_advance _).trans (cursor.skipGap.position_le_advance _))
  case case3 cursor here first rest shape kind more read _ _ _ ih =>
    have split : real cursor.produced = [⟨kind, cursor.skipGap.location⟩] ++
        real (cursor.skipGap.advance (more + 1)).produced := by
      rw [produced_of_token shape read]
      exact List.filter_cons_of_pos (by simpa using Scan.kind_ne_endOfInput read)
    rw [tokenize_eq_of_token shape read, split]
    exact (Ascends.singleton _ (cursor.position_le_advance _)
      (position_lt_advance shape more)).append ih

theorem ascends_calls (count : Nat) (cursor : Cursor) :
    ∃ high, Ascends cursor.location.position high
      (real ((calls count cursor).flatMap produced)) := by
  induction count generalizing cursor with
  | zero => exact ⟨_, .nil (Nat.le_refl _)⟩
  | succ count ih =>
    obtain ⟨high, late⟩ := ih cursor.tokenize.2
    refine ⟨high, ?_⟩
    rw [calls, List.flatMap_cons, real, List.filter_append]
    exact cursor.ascends_produced.append late

/-- However often a lexer is called, its tokens and faults are where they say, and the tokens
before the end of input come one behind the other, each of them once. -/
theorem tokenize_places (source : String) (count : Nat) :
    (∀ cursor ∈ calls count (ofString source),
      (∀ token ∈ cursor.produced, token.In source.toList) ∧
      (∀ tokens, cursor.tokenize.1 = .ok tokens → tokens = cursor.produced) ∧
      ∀ error, cursor.tokenize.1 = .error error →
        ∃ cause location, error = .lexical cause location ∧ location.In source.toList) ∧
    (real ((calls count (ofString source)).flatMap produced)).Pairwise
      fun first second => first.location.position < second.location.position := by
  constructor
  · intro cursor member
    have stands := (in_ofString source).of_mem_calls member
    refine ⟨stands.produced, fun tokens found => ?_, fun error failed => stands.fault failed⟩
    exact (lexes_of_tokenize cursor found).produced_eq.symm
  · obtain ⟨high, ascends⟩ := ascends_calls count (ofString source)
    exact ascends.sorted

theorem tokenize_places_behindFault :
    (calls 2 (ofString "x\n! y")).flatMap produced = [⟨.identifier "x", ⟨0, 1, 1⟩⟩,
      ⟨.identifier "y", ⟨4, 2, 3⟩⟩, ⟨.endOfInput, ⟨5, 2, 4⟩⟩] ∧
    ∃ cause location, CompileError.lexical (.unexpectedCharacter '!') ⟨2, 2, 1⟩ =
      .lexical cause location ∧ location.In "x\n! y".toList :=
  ⟨by cbv, ((tokenize_places "x\n! y" 2).1 _ List.mem_cons_self).2.2 _ (by cbv)⟩

end Cursor

end ScoringRules
