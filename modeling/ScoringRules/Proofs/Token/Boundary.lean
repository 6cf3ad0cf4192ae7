import ScoringRules.Proofs.Token.Lexeme

/-!
What may follow a lexeme: the lexer skips exactly the gaps, and a token runs together with the
one behind it if and only if the first character of that one would make it longer.
-/

namespace ScoringRules

/-- No gap starts here. -/
def Fresh (source : List Char) : Prop :=
  ∀ c ∈ source.head?, isBlank c = false ∧ c ≠ '#'

theorem gapLength_comment {text : List Char} (within : '\n' ∉ text) (behind : List Char) :
    gapLength true (text ++ behind) = text.length + gapLength true behind := by
  induction text with
  | nil => simp
  | cons c rest ih =>
    rw [List.mem_cons, not_or] at within
    obtain ⟨other, within⟩ := within
    have stays : (c != '\n') = true := by simpa using Ne.symm other
    rw [List.cons_append, gapLength, if_pos rfl, stays, ih within, List.length_cons]
    omega

theorem gapLength_true_eq_false {source : List Char}
    (ends : source = [] ∨ source.head? = some '\n') :
    gapLength true source = gapLength false source := by
  cases source with
  | nil => rfl
  | cons c rest =>
    obtain rfl : c = '\n' := by simpa using ends
    rfl

theorem gapLength_eq_length {gap behind : List Char} (between : Gap gap behind)
    (fresh : Fresh behind) : gapLength false (gap ++ behind) = gap.length := by
  induction between with
  | @nil behind =>
    cases behind with
    | nil => rfl
    | cons c rest =>
      obtain ⟨dark, other⟩ := fresh c rfl
      simp [gapLength, dark, other]
  | blank c white _ ih => simp [gapLength, white, ih fresh]
  | @comment gap behind text within ends _ ih =>
    have inside := gapLength_comment within (gap ++ behind)
    rw [gapLength_true_eq_false ends, ih fresh] at inside
    have dark : isBlank '#' = false := by decide
    simp [gapLength, dark, inside]

/-- What the lexer skips is a gap. Behind the mark of a comment, it is the rest of the comment and
then a gap. -/
theorem gap_take (source : List Char) :
    Gap (source.take (gapLength false source)) (source.drop (gapLength false source)) ∧
      ∃ text gap, source.take (gapLength true source) = text ++ gap ∧ '\n' ∉ text ∧
        (gap ++ source.drop (gapLength true source) = [] ∨
          (gap ++ source.drop (gapLength true source)).head? = some '\n') ∧
        Gap gap (source.drop (gapLength true source)) := by
  induction source with
  | nil => exact ⟨.nil, [], [], rfl, List.not_mem_nil, .inl rfl, .nil⟩
  | cons c rest ih =>
    obtain ⟨outside, text, gap, taken, within, ends, between⟩ := ih
    constructor
    · unfold gapLength
      rw [if_neg Bool.false_ne_true]
      split
      · rename_i white
        exact .blank c white outside
      · split
        · rename_i mark
          subst mark
          rw [List.take_succ_cons, List.drop_succ_cons, taken]
          exact .comment text within ends between
        · exact .nil
    · unfold gapLength
      rw [if_pos rfl, List.take_succ_cons, List.drop_succ_cons]
      by_cases line : c = '\n'
      · subst line
        exact ⟨[], _, rfl, List.not_mem_nil, .inr rfl, .blank '\n' (by decide) outside⟩
      · have stays : (c != '\n') = true := by simpa using line
        rw [stays, taken]
        refine ⟨c :: text, gap, rfl, ?_, ends, between⟩
        rw [List.mem_cons, not_or]
        exact ⟨Ne.symm line, within⟩

theorem isBlank_of_isNameChar {c : Char} (name : isNameChar c = true) :
    isBlank c = false ∧ c ≠ '#' := by
  constructor
  · by_contra blank
    rw [isNameChar_iff, isNameStart_iff_toNat, Char.isDigit_iff_toNat] at name
    simp only [isBlank, Bool.or_eq_true, Bool.and_eq_true, decide_eq_true_eq, beq_iff_eq,
      Bool.not_eq_false, Char.reduceToNat] at name blank
    rcases name with (letter | rfl) | digit
    · omega
    · revert blank
      decide
    · omega
  · rintro rfl
    revert name
    decide

namespace TokenKind

open Scan

/-- A spelling of a token can start with this character. -/
def Opens (c : Char) : TokenKind → Prop
  | identifier _ | keyword _ => isNameStart c = true
  | integer _ => c.isDigit = true ∨ c = '-'
  | symbol mark => mark.text.toList.head? = some c
  | string _ => c = '"'
  | regex _ => c = '/'
  | endOfInput => False

theorem opens_of_spells {kind : TokenKind} {text : List Char} (spelled : kind.Spells text) :
    ∃ c rest, text = c :: rest ∧ kind.Opens c := by
  have word : IsName text → ∃ c rest, text = c :: rest ∧ isNameStart c = true := by
    intro name
    cases text with
    | nil => exact name.elim
    | cons c rest => exact ⟨c, rest, rfl, name.1⟩
  cases kind with
  | keyword keyword => exact word (isName_of_spells rfl spelled)
  | identifier name => exact word (isName_of_spells rfl spelled)
  | integer value =>
    obtain ⟨digits, ⟨nonempty, inside⟩, ⟨rfl, -⟩ | ⟨rfl, -⟩⟩ := spelled
    · obtain ⟨c, rest, rfl⟩ := List.exists_cons_of_ne_nil nonempty
      exact ⟨c, rest, rfl, .inl (inside c List.mem_cons_self)⟩
    · exact ⟨'-', digits, rfl, .inr rfl⟩
  | symbol mark =>
    obtain rfl : text = mark.text.toList := spelled
    cases mark <;> exact ⟨_, _, rfl, rfl⟩
  | string content =>
    obtain ⟨inner, -, rfl⟩ := spelled
    exact ⟨'"', inner ++ ['"'], rfl, rfl⟩
  | regex pattern =>
    obtain ⟨inner, -, rfl⟩ := spelled
    exact ⟨'/', inner ++ ['/'], rfl, rfl⟩
  | endOfInput => exact spelled.elim

theorem Opens.fresh {kind : TokenKind} {c : Char} (opens : kind.Opens c) :
    isBlank c = false ∧ c ≠ '#' := by
  cases kind with
  | keyword _ | identifier _ => exact isBlank_of_isNameChar (isNameChar_of_isNameStart opens)
  | integer value =>
    rcases opens with digit | rfl
    · exact isBlank_of_isNameChar (isNameChar_of_isDigit digit)
    · decide
  | symbol mark =>
    cases mark <;> obtain rfl := Option.some.inj opens <;> decide
  | string _ | regex _ =>
    obtain rfl := opens
    decide
  | endOfInput => exact opens.elim

theorem growsBy_of_isWord {kind : TokenKind} (isWord : kind.isWord = true) (c : Char) :
    kind.growsBy c = isNameChar c := by
  cases kind with
  | keyword _ | identifier _ => rfl
  | _ => cases isWord

theorem exists_integer_of_opens {kind : TokenKind} {c : Char} (digit : c.isDigit = true)
    (opens : kind.Opens c) : ∃ value, kind = .integer value := by
  cases kind with
  | integer value => exact ⟨value, rfl⟩
  | identifier _ | keyword _ =>
    have letter := isDigit_of_isNameStart opens
    rw [digit] at letter
    cases letter
  | symbol mark =>
    cases mark <;> obtain rfl := Option.some.inj opens <;> exact absurd digit (by decide)
  | string _ | regex _ =>
    obtain rfl := opens
    exact absurd digit (by decide)
  | endOfInput => exact opens.elim

theorem exists_symbol_of_opens {kind : TokenKind} (opens : kind.Opens '=') :
    ∃ mark : Symbol, kind = symbol mark ∧ (mark = .assign ∨ mark = .equal) := by
  cases kind with
  | symbol mark =>
    refine ⟨mark, rfl, ?_⟩
    have first : mark.text.toList.head? = some '=' := opens
    revert first
    cases mark <;> decide
  | integer value =>
    rcases opens with digit | minus
    · exact absurd digit (by decide)
    · exact absurd minus (by decide)
  | identifier _ | keyword _ =>
    have start : isNameStart '=' = true := opens
    exact absurd start (by decide)
  | string _ =>
    have quote : '=' = '"' := opens
    exact absurd quote (by decide)
  | regex _ =>
    have slash : '=' = '/' := opens
    exact absurd slash (by decide)
  | endOfInput => exact opens.elim

theorem merges_of_isWord {first second : TokenKind} {c : Char} {rest : List Char}
    (isWord : first.isWord = true) (opens : second.Opens c) (name : isNameChar c = true) :
    first.Merges second (c :: rest) := by
  cases second with
  | identifier _ | keyword _ => exact .words isWord rfl
  | integer value =>
    refine .wordNumber isWord ?_
    rintro minus
    obtain rfl := Option.some.inj minus
    exact absurd name (by decide)
  | symbol mark =>
    cases mark <;> obtain rfl := Option.some.inj opens <;> exact absurd name (by decide)
  | string _ | regex _ =>
    obtain rfl := opens
    exact absurd name (by decide)
  | endOfInput => exact opens.elim

theorem merges_of_growsBy {first second : TokenKind} {c : Char} {rest : List Char}
    (opens : second.Opens c) (grows : first.growsBy c = true) :
    first.Merges second (c :: rest) := by
  cases first with
  | identifier name => exact merges_of_isWord rfl opens grows
  | keyword word => exact merges_of_isWord rfl opens grows
  | integer value =>
    have digit : c.isDigit = true := grows
    obtain ⟨value, rfl⟩ := exists_integer_of_opens digit opens
    refine .numbers ?_
    rintro minus
    obtain rfl := Option.some.inj minus
    exact absurd digit (by decide)
  | symbol mark =>
    have before : mark = .assign ∨ mark = .less ∨ mark = .greater := by
      cases mark <;> first | cases grows | simp
    have equals : c = '=' := by
      rcases before with rfl | rfl | rfl <;> exact eq_of_beq grows
    subst equals
    obtain ⟨next, rfl, behind⟩ := exists_symbol_of_opens opens
    exact .equals before behind
  | string _ | regex _ | endOfInput => cases grows

theorem growsBy_of_merges {first second : TokenKind} {c : Char} {rest : List Char}
    (opens : second.Opens c) (merges : first.Merges second (c :: rest)) :
    first.growsBy c = true := by
  cases merges with
  | words before behind =>
    rw [growsBy_of_isWord before]
    cases second with
    | keyword _ | identifier _ => exact isNameChar_of_isNameStart opens
    | _ => cases behind
  | wordNumber before unsigned =>
    rw [growsBy_of_isWord before]
    rcases opens with digit | rfl
    · exact isNameChar_of_isDigit digit
    · exact absurd rfl unsigned
  | numbers unsigned =>
    rcases opens with digit | rfl
    · exact digit
    · exact absurd rfl unsigned
  | equals before behind =>
    have same : c = '=' := by
      rcases behind with rfl | rfl <;> exact (Option.some.inj opens).symm
    subst same
    rcases before with rfl | rfl | rfl <;> rfl

theorem fresh_of_growsBy {kind : TokenKind} {c : Char} (grows : kind.growsBy c = true) :
    isBlank c = false ∧ c ≠ '#' := by
  cases kind with
  | identifier _ | keyword _ => exact isBlank_of_isNameChar grows
  | integer value => exact isBlank_of_isNameChar (isNameChar_of_isDigit grows)
  | symbol mark =>
    cases mark with
    | assign | less | greater =>
      obtain rfl : c = '=' := eq_of_beq grows
      decide
    | _ => cases grows
  | string _ | regex _ | endOfInput => cases grows

end TokenKind

theorem Cut.fresh {source : List Char} {pieces : List Piece} (cut : Cut source pieces) :
    Fresh source := by
  cases cut with
  | nil =>
    intro c next
    cases next
  | cons spelled =>
    obtain ⟨c, rest, rfl, opens⟩ := TokenKind.opens_of_spells spelled
    intro d next
    obtain rfl := Option.some.inj next
    exact opens.fresh

/-- A token is as long as can be if and only if it does not run together with the next one. -/
theorem stops_iff_apart {kind : TokenKind} {gap rest : List Char} {pieces : List Piece}
    (between : Gap gap rest) (cut : Cut rest pieces) :
    (∀ c ∈ (gap ++ rest).head?, kind.growsBy c = false) ↔
      (gap = [] → ∀ next ∈ pieces.head?, ¬ kind.Merges next.kind next.text) := by
  -- Tokens merge only if nothing is between them, and no gap starts with what a token grows by.
  cases between with
  | nil =>
    cases cut with
    | nil => simp
    | cons spelled between apart cut =>
      obtain ⟨c, rest, rfl, opens⟩ := TokenKind.opens_of_spells spelled
      constructor
      · rintro stop - next same merges
        obtain rfl := Option.some.inj same
        have grows := TokenKind.growsBy_of_merges opens merges
        rw [stop c rfl] at grows
        cases grows
      · intro apart d same
        obtain rfl := Option.some.inj same
        by_contra grows
        rw [Bool.not_eq_false] at grows
        exact apart rfl _ rfl (TokenKind.merges_of_growsBy opens grows)
  | blank c white between =>
    constructor
    · intro _ empty
      cases empty
    · intro _ d same
      obtain rfl := Option.some.inj same
      by_contra grows
      rw [Bool.not_eq_false] at grows
      rw [(TokenKind.fresh_of_growsBy grows).1] at white
      cases white
  | comment text within ends between =>
    constructor
    · intro _ empty
      cases empty
    · intro _ d same
      obtain rfl := Option.some.inj same
      by_contra grows
      rw [Bool.not_eq_false] at grows
      exact (TokenKind.fresh_of_growsBy grows).2 rfl

end ScoringRules
