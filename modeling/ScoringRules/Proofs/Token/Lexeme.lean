import Mathlib.Data.List.Induction
import Mathlib.Data.List.TakeWhile
import ScoringRules.Proofs.Data.General
import ScoringRules.Proofs.Token.Spelling

/-!
One lexeme at a time: the lexer takes a token from the front of a text exactly if the characters
spell it and the next character would not make it longer.
-/

namespace ScoringRules

theorem stringBody_of_spelled {text spelled : List Char} (body : StringBody text spelled)
    (rest : List Char) :
    stringBody (spelled ++ '"' :: rest) = some (text, spelled.length + 1) := by
  induction body with
  | nil => rfl
  | plain c delimits escapes _ ih => simp [stringBody, escapes, ih]
  | lineFeed _ ih => simp [stringBody, ih, unescape]
  | tab _ ih => simp [stringBody, ih, unescape]
  | carriageReturn _ ih => simp [stringBody, ih, unescape]
  | escaped c other _ ih => simp [stringBody, ih, unescape, other]

theorem StringBody.unescape {text spelled : List Char} (body : StringBody text spelled) (c : Char) :
    StringBody (unescape c :: text) ('\\' :: c :: spelled) := by
  unfold ScoringRules.unescape
  split
  · exact .lineFeed body
  · exact .tab body
  · exact .carriageReturn body
  · rename_i notN notT notR
    exact .escaped c ⟨notN, notT, notR⟩ body

theorem spelled_of_stringBody {source text : List Char} {n : Nat}
    (read : stringBody source = some (text, n)) :
    ∃ spelled rest, source = spelled ++ '"' :: rest ∧ StringBody text spelled ∧
      n = spelled.length + 1 := by
  fun_induction stringBody source generalizing text n with
  | case1 => cases read
  | case2 rest =>
    cases read
    exact ⟨[], rest, rfl, .nil, rfl⟩
  | case3 => cases read
  | case4 c rest ih =>
    obtain ⟨⟨inner, m⟩, readRest, same⟩ := Option.map_eq_some_iff.mp read
    obtain ⟨spelled, behind, rfl, body, rfl⟩ := ih readRest
    obtain ⟨rfl, rfl⟩ := Prod.mk.inj same
    exact ⟨'\\' :: c :: spelled, behind, rfl, body.unescape c, rfl⟩
  | case5 c rest delimits ends escapes ih =>
    obtain ⟨⟨inner, m⟩, readRest, same⟩ := Option.map_eq_some_iff.mp read
    obtain ⟨spelled, behind, rfl, body, rfl⟩ := ih readRest
    obtain ⟨rfl, rfl⟩ := Prod.mk.inj same
    refine ⟨c :: spelled, behind, rfl, .plain c delimits ?_ body, rfl⟩
    rintro rfl
    cases shape : spelled ++ '"' :: behind with
    | nil => exact ends rfl shape
    | cons next more => exact escapes next more rfl shape

theorem regexBody_of_spelled {pattern spelled : List Char} (body : RegexBody pattern spelled)
    (rest : List Char) :
    regexBody (spelled ++ '/' :: rest) = some (pattern, spelled.length + 1) := by
  induction body with
  | nil => rfl
  | plain c delimits escapes _ ih => simp [regexBody, escapes, ih]
  | slash _ ih => simp [regexBody, ih, patternEscape]
  | escaped c other _ ih => simp [regexBody, ih, patternEscape, other]

theorem RegexBody.escape {pattern spelled : List Char} (body : RegexBody pattern spelled)
    (c : Char) : RegexBody (patternEscape c ++ pattern) ('\\' :: c :: spelled) := by
  unfold patternEscape
  split
  · rename_i delimiter
    subst delimiter
    exact .slash body
  · rename_i other
    exact .escaped c other body

theorem spelled_of_regexBody {source pattern : List Char} {n : Nat}
    (read : regexBody source = some (pattern, n)) :
    ∃ spelled rest, source = spelled ++ '/' :: rest ∧ RegexBody pattern spelled ∧
      n = spelled.length + 1 := by
  fun_induction regexBody source generalizing pattern n with
  | case1 => cases read
  | case2 rest =>
    cases read
    exact ⟨[], rest, rfl, .nil, rfl⟩
  | case3 => cases read
  | case4 c rest ih =>
    obtain ⟨⟨inner, m⟩, readRest, same⟩ := Option.map_eq_some_iff.mp read
    obtain ⟨spelled, behind, rfl, body, rfl⟩ := ih readRest
    obtain ⟨rfl, rfl⟩ := Prod.mk.inj same
    exact ⟨'\\' :: c :: spelled, behind, rfl, body.escape c, rfl⟩
  | case5 c rest delimits ends escapes ih =>
    obtain ⟨⟨inner, m⟩, readRest, same⟩ := Option.map_eq_some_iff.mp read
    obtain ⟨spelled, behind, rfl, body, rfl⟩ := ih readRest
    obtain ⟨rfl, rfl⟩ := Prod.mk.inj same
    refine ⟨c :: spelled, behind, rfl, .plain c delimits ?_ body, rfl⟩
    rintro rfl
    cases shape : spelled ++ '/' :: behind with
    | nil => exact ends rfl shape
    | cons next more => exact escapes next more rfl shape

theorem decimalValue_eq_numberOf (digits : List Char) : decimalValue digits = numberOf digits := by
  induction digits using List.reverseRecOn with
  | nil => rfl
  | append_singleton digits c ih =>
    unfold decimalValue numberOf at *
    rw [List.foldl_append, ih, List.reverse_append]
    simp [Nat.ofDigits_cons]
    omega

namespace TokenKind

/-- A character behind a token that would have made it another one. -/
def growsBy (c : Char) : TokenKind → Bool
  | identifier _ | keyword _ => isNameChar c
  | integer _ => c.isDigit
  | symbol .assign | symbol .less | symbol .greater => c == '='
  | _ => false

end TokenKind

theorem int64?_eq_some_iff {value : Int} {n : Int64} :
    int64? value = some n ↔ n.toInt = value := by
  unfold int64?
  constructor
  · intro read
    split at read
    · rename_i range
      obtain rfl := Option.some.inj read
      have below : value < Int64.maxValue.toInt + 1 := Int.lt_add_one_of_le range.2
      exact Int64.toInt_ofInt_of_le range.1 below
    · cases read
  · rintro rfl
    rw [if_pos ⟨n.minValue_le_toInt, n.toInt_le⟩, Int64.ofInt_toInt]

theorem isName_text (word : Keyword) : IsName word.text.toList := by
  cases word <;> simp [Keyword.text, IsName] <;> decide

theorem ofText?_text (word : Keyword) : Keyword.ofText? word.text = some word := by
  cases word <;> decide

theorem text_of_ofText? {name : String} {word : Keyword}
    (found : Keyword.ofText? name = some word) : word.text = name := by
  simpa using List.find?_some found

theorem ofText?_eq_none_iff {name : String} :
    Keyword.ofText? name = none ↔ ∀ word : Keyword, word.text ≠ name := by
  constructor
  · rintro absent word rfl
    rw [ofText?_text] at absent
    cases absent
  · intro other
    cases found : Keyword.ofText? name with
    | none => rfl
    | some word => exact absurd (text_of_ofText? found) (other word)

theorem isNameStart_iff_toNat {c : Char} : isNameStart c = true ↔
    ('A'.toNat ≤ c.toNat ∧ c.toNat ≤ 'Z'.toNat ∨ 'a'.toNat ≤ c.toNat ∧ c.toNat ≤ 'z'.toNat) ∨
      c = '_' := by
  change (decide (c.val ≥ 'A'.val ∧ c.val ≤ 'Z'.val) ||
    (decide (c.val ≥ 'a'.val) && decide (c.val ≤ 'z'.val)) || c == '_') = true ↔ _
  simp [UInt32.le_iff_toNat_le]

theorem isNameChar_iff {c : Char} :
    isNameChar c = true ↔ isNameStart c = true ∨ c.isDigit = true := by
  change (c.isAlpha || c.isDigit || c == '_') = true ↔ (c.isAlpha || c == '_') = true ∨ _
  simp only [Bool.or_eq_true]
  exact or_right_comm

theorem isDigit_of_isNameStart {c : Char} (start : isNameStart c = true) : c.isDigit = false := by
  by_contra digit
  rw [Bool.not_eq_false, Char.isDigit_iff_toNat] at digit
  rw [isNameStart_iff_toNat] at start
  simp only [Char.reduceToNat] at start digit
  rcases start with letter | rfl
  · omega
  · revert digit
    decide

theorem isNameChar_of_isDigit {c : Char} (digit : c.isDigit = true) : isNameChar c = true :=
  isNameChar_iff.mpr (.inr digit)

theorem isNameChar_of_isNameStart {c : Char} (start : isNameStart c = true) :
    isNameChar c = true :=
  isNameChar_iff.mpr (.inl start)

theorem IsName.allNameChars {text : List Char} (isName : IsName text) :
    ∀ c ∈ text, isNameChar c = true := by
  cases text with
  | nil => exact isName.elim
  | cons first rest =>
    exact List.forall_mem_cons.mpr ⟨isNameChar_of_isNameStart isName.1, isName.2⟩

theorem IsName.notMem {text : List Char} (isName : IsName text) {c : Char}
    (other : isNameChar c = false) : c ∉ text := fun inside =>
  Bool.false_ne_true (other.symm.trans (isName.allNameChars c inside))

namespace TokenKind

/-- The token at the front of a text: its spelling is as long as can be. -/
def Fronts (kind : TokenKind) (source : List Char) (length : Nat) : Prop :=
  ∃ text behind, source = text ++ behind ∧ text.length = length ∧ kind.Spells text ∧
    ∀ c ∈ behind.head?, kind.growsBy c = false

end TokenKind

namespace Scan

open TokenKind

theorem lexeme_of_isNameStart {first : Char} (start : isNameStart first = true)
    (rest : List Char) : lexeme first rest = word ((first :: rest).takeWhile isNameChar) := by
  unfold lexeme
  split
  all_goals first | exact absurd start (by decide) | skip
  rw [isDigit_of_isNameStart start, if_neg Bool.false_ne_true, if_pos start]

theorem lexeme_of_isDigit {first : Char} (digit : first.isDigit = true) (rest : List Char) :
    lexeme first rest = integer false (first :: rest) := by
  unfold lexeme
  split
  all_goals first | exact absurd digit (by decide) | skip
  rw [if_pos digit]

theorem spells_word {letters : List Char} (name : IsName letters) :
    ((Keyword.ofText? (String.ofList letters)).elim (.identifier (String.ofList letters))
      TokenKind.keyword).Spells letters := by
  cases found : Keyword.ofText? (String.ofList letters) with
  | none => exact ⟨(String.toList_ofList).symm, name, ofText?_eq_none_iff.mp found⟩
  | some keyword =>
    change letters = keyword.text.toList
    rw [text_of_ofText? found, String.toList_ofList]

theorem word_of_spells {letters : List Char} {kind : TokenKind} (isWord : kind.isWord = true)
    (spelled : kind.Spells letters) : word letters = token kind (letters.length - 1) := by
  cases kind with
  | keyword keyword =>
    obtain rfl : letters = keyword.text.toList := spelled
    rw [word, String.ofList_toList, ofText?_text]
    rfl
  | identifier name =>
    obtain ⟨rfl, -, other⟩ := spelled
    rw [word, String.ofList_toList, ofText?_eq_none_iff.mpr other]
    rfl
  | _ => cases isWord

theorem fronts_word {first : Char} {rest : List Char} (start : isNameStart first = true)
    {kind : TokenKind} {more : Nat}
    (read : word ((first :: rest).takeWhile isNameChar) = token kind more) :
    kind.Fronts (first :: rest) (more + 1) := by
  have shape : (first :: rest).takeWhile isNameChar = first :: rest.takeWhile isNameChar :=
    List.takeWhile_cons_of_pos (isNameChar_of_isNameStart start)
  have name : IsName ((first :: rest).takeWhile isNameChar) := by
    rw [shape]
    exact ⟨start, fun c member => List.mem_takeWhile_imp member⟩
  have spelled := spells_word name
  have grows : ∀ c, ((Keyword.ofText? (String.ofList ((first :: rest).takeWhile isNameChar))).elim
      (.identifier (String.ofList ((first :: rest).takeWhile isNameChar)))
      TokenKind.keyword).growsBy c = isNameChar c := by
    intro c
    cases Keyword.ofText? (String.ofList ((first :: rest).takeWhile isNameChar)) <;> rfl
  unfold word at read
  obtain ⟨rfl, rfl⟩ := Scan.token.inj read
  refine ⟨_, _, List.takeWhile_append_dropWhile.symm, ?_, spelled, fun c next => ?_⟩
  · rw [shape]
    rfl
  · rw [grows]
    exact stop_dropWhile c next

theorem fronts_integer {negative : Bool} {rest : List Char}
    (starts : rest.takeWhile Char.isDigit ≠ []) {kind : TokenKind} {more : Nat}
    (read : integer negative rest = token kind more) :
    kind.Fronts ((if negative then ['-'] else []) ++ rest) (more + 1) := by
  have digits : IsDigits (rest.takeWhile Char.isDigit) :=
    ⟨starts, fun c member => List.mem_takeWhile_imp member⟩
  have positive := List.length_pos_iff.mpr starts
  unfold integer at read
  dsimp only at read
  split at read
  · rename_i value found
    obtain ⟨rfl, rfl⟩ := Scan.token.inj read
    have valued := int64?_eq_some_iff.mp found
    rw [decimalValue_eq_numberOf] at valued
    cases negative with
    | false =>
      refine ⟨rest.takeWhile Char.isDigit, rest.dropWhile Char.isDigit,
        List.takeWhile_append_dropWhile.symm, ?_, ⟨_, digits, .inl ⟨rfl, valued⟩⟩, stop_dropWhile⟩
      simp only [Bool.false_eq_true, if_false]
      omega
    | true =>
      refine ⟨'-' :: rest.takeWhile Char.isDigit, rest.dropWhile Char.isDigit, ?_, ?_,
        ⟨_, digits, .inr ⟨rfl, valued⟩⟩, stop_dropWhile⟩
      · rw [List.cons_append, List.takeWhile_append_dropWhile]
        rfl
      · simp
  · cases read

theorem integer_of_digits (negative : Bool) {digits behind : List Char} {value : Int64}
    (inside : IsDigits digits) (stop : ∀ c ∈ behind.head?, c.isDigit = false)
    (valued : value.toInt = if negative then -(numberOf digits : Int) else numberOf digits) :
    integer negative (digits ++ behind) = token (.integer value)
      ((if negative then digits.length + 1 else digits.length) - 1) := by
  unfold integer
  rw [takeWhile_append_of_stop inside.2 stop]
  dsimp only
  rw [decimalValue_eq_numberOf, int64?_eq_some_iff.mpr valued]

theorem lexeme_minus {first : Char} (digit : first.isDigit = true) (rest : List Char) :
    lexeme '-' (first :: rest) = integer true (first :: rest) := by
  simp only [lexeme]
  split
  · rename_i same
    obtain ⟨rfl, rfl⟩ := List.cons.inj same
    exact absurd digit (by decide)
  · rename_i same
    obtain ⟨rfl, rfl⟩ := List.cons.inj same
    rw [if_pos digit]
  · rename_i same
    cases same

theorem fronts_symbol (mark : Symbol) (behind : List Char)
    (stop : ∀ c ∈ behind.head?, (TokenKind.symbol mark).growsBy c = false) :
    (TokenKind.symbol mark).Fronts (mark.text.toList ++ behind) mark.text.toList.length :=
  ⟨mark.text.toList, behind, rfl, rfl, rfl, stop⟩

theorem fronts_orEqual {short long : Symbol} {first : Char} {rest : List Char}
    {kind : TokenKind} {more : Nat} (shortText : short.text.toList = [first])
    (longText : long.text.toList = [first, '='])
    (grows : ∀ c, (TokenKind.symbol short).growsBy c = (c == '='))
    (stays : ∀ c, (TokenKind.symbol long).growsBy c = false)
    (read : orEqual short long rest = token kind more) :
    kind.Fronts (first :: rest) (more + 1) := by
  unfold orEqual at read
  split at read
  · rename_i behind
    obtain ⟨rfl, rfl⟩ := Scan.token.inj read
    have fronts := fronts_symbol long behind fun c _ => stays c
    rw [longText] at fronts
    exact fronts
  · rename_i other
    obtain ⟨rfl, rfl⟩ := Scan.token.inj read
    have stop : ∀ c ∈ rest.head?, (TokenKind.symbol short).growsBy c = false := by
      intro c next
      cases rest with
      | nil => cases next
      | cons d behind =>
        obtain rfl := Option.some.inj next
        rw [grows, beq_eq_false_iff_ne]
        rintro rfl
        exact other behind rfl
    have fronts := fronts_symbol short rest stop
    rw [shortText] at fronts
    exact fronts

/-- The lexeme at the front of a text is spelled there, and ends where it cannot go on. -/
theorem fronts_of_lexeme {first : Char} {rest : List Char} {kind : TokenKind} {more : Nat}
    (read : lexeme first rest = token kind more) : kind.Fronts (first :: rest) (more + 1) := by
  unfold lexeme at read
  split at read
  case h_1 =>
    obtain ⟨rfl, rfl⟩ := Scan.token.inj read
    exact fronts_symbol .leftParen rest fun _ _ => rfl
  case h_2 =>
    obtain ⟨rfl, rfl⟩ := Scan.token.inj read
    exact fronts_symbol .rightParen rest fun _ _ => rfl
  case h_3 =>
    obtain ⟨rfl, rfl⟩ := Scan.token.inj read
    exact fronts_symbol .leftBracket rest fun _ _ => rfl
  case h_4 =>
    obtain ⟨rfl, rfl⟩ := Scan.token.inj read
    exact fronts_symbol .rightBracket rest fun _ _ => rfl
  case h_5 =>
    obtain ⟨rfl, rfl⟩ := Scan.token.inj read
    exact fronts_symbol .comma rest fun _ _ => rfl
  case h_6 => exact fronts_orEqual rfl rfl (fun _ => rfl) (fun _ => rfl) read
  case h_7 => exact fronts_orEqual rfl rfl (fun _ => rfl) (fun _ => rfl) read
  case h_8 => exact fronts_orEqual rfl rfl (fun _ => rfl) (fun _ => rfl) read
  case h_9 =>
    split at read
    · rename_i behind
      obtain ⟨rfl, rfl⟩ := Scan.token.inj read
      exact fronts_symbol .notEqual behind fun _ _ => rfl
    · cases read
  case h_10 =>
    split at read
    · rename_i behind
      obtain ⟨rfl, rfl⟩ := Scan.token.inj read
      exact fronts_symbol .addAssign behind fun _ _ => rfl
    · cases read
  case h_11 =>
    split at read
    · rename_i behind
      obtain ⟨rfl, rfl⟩ := Scan.token.inj read
      exact fronts_symbol .subAssign behind fun _ _ => rfl
    · rename_i c behind _
      split at read
      · rename_i digit
        refine fronts_integer ?_ read
        rw [List.takeWhile_cons_of_pos digit]
        exact List.cons_ne_nil _ _
      · cases read
    · cases read
  case h_12 =>
    split at read
    · rename_i text n body
      obtain ⟨rfl, rfl⟩ := Scan.token.inj read
      obtain ⟨spelled, behind, rfl, body, rfl⟩ := spelled_of_stringBody body
      refine ⟨'"' :: spelled ++ ['"'], behind, by simp, by simp, ⟨spelled, ?_, rfl⟩, fun _ _ => rfl⟩
      rwa [String.toList_ofList]
    · cases read
  case h_13 =>
    split at read
    · rename_i pattern n body
      obtain ⟨rfl, rfl⟩ := Scan.token.inj read
      obtain ⟨spelled, behind, rfl, body, rfl⟩ := spelled_of_regexBody body
      refine ⟨'/' :: spelled ++ ['/'], behind, by simp, by simp, ⟨spelled, ?_, rfl⟩, fun _ _ => rfl⟩
      rwa [String.toList_ofList]
    · cases read
  case h_14 =>
    split at read
    · rename_i digit
      refine fronts_integer ?_ read
      rw [List.takeWhile_cons_of_pos digit]
      exact List.cons_ne_nil _ _
    · split at read
      · rename_i start
        exact fronts_word start read
      · cases read

theorem isName_of_spells {kind : TokenKind} {text : List Char} (isWord : kind.isWord = true)
    (spelled : kind.Spells text) : IsName text := by
  cases kind with
  | keyword keyword =>
    obtain rfl : text = keyword.text.toList := spelled
    exact isName_text keyword
  | identifier name => exact spelled.2.1
  | _ => cases isWord

theorem orEqual_of_stop (short long : Symbol) {behind : List Char}
    (stop : ∀ c ∈ behind.head?, (c == '=') = false) :
    orEqual short long behind = token (.symbol short) 0 := by
  unfold orEqual
  split
  · exact absurd (stop '=' rfl) (by decide)
  · rfl

theorem lexeme_of_symbol {mark : Symbol} {first : Char} {rest behind : List Char}
    (shape : first :: rest = mark.text.toList ++ behind)
    (stop : ∀ c ∈ behind.head?, (TokenKind.symbol mark).growsBy c = false) :
    lexeme first rest = token (.symbol mark) (mark.text.toList.length - 1) := by
  cases mark with
  | assign | less | greater =>
    obtain ⟨rfl, rfl⟩ := List.cons.inj shape
    exact orEqual_of_stop _ _ stop
  | _ =>
    obtain ⟨rfl, rfl⟩ := List.cons.inj shape
    rfl

theorem lexeme_of_word {kind : TokenKind} {first : Char} {rest text behind : List Char}
    (isWord : kind.isWord = true) (shape : first :: rest = text ++ behind)
    (spelled : kind.Spells text) (stop : ∀ c ∈ behind.head?, isNameChar c = false) :
    lexeme first rest = token kind (text.length - 1) := by
  have name := isName_of_spells isWord spelled
  cases text with
  | nil => exact name.elim
  | cons c more =>
    rw [List.cons_append] at shape
    obtain ⟨rfl, rfl⟩ := List.cons.inj shape
    rw [lexeme_of_isNameStart name.1, ← List.cons_append,
      takeWhile_append_of_stop name.allNameChars stop]
    exact word_of_spells isWord spelled

theorem lexeme_of_integer {value : Int64} {first : Char} {rest text behind : List Char}
    (shape : first :: rest = text ++ behind) (spelled : SpellsInteger value text)
    (stop : ∀ c ∈ behind.head?, c.isDigit = false) :
    lexeme first rest = token (.integer value) (text.length - 1) := by
  obtain ⟨digits, inside, unsigned | signed⟩ := spelled
  · obtain ⟨rfl, valued⟩ := unsigned
    obtain ⟨c, more, rfl⟩ := List.exists_cons_of_ne_nil inside.1
    rw [List.cons_append] at shape
    obtain ⟨rfl, rfl⟩ := List.cons.inj shape
    rw [lexeme_of_isDigit (inside.2 first List.mem_cons_self), ← List.cons_append]
    exact integer_of_digits false inside stop valued
  · obtain ⟨rfl, valued⟩ := signed
    obtain ⟨c, more, rfl⟩ := List.exists_cons_of_ne_nil inside.1
    rw [List.cons_append, List.cons_append] at shape
    obtain ⟨rfl, rfl⟩ := List.cons.inj shape
    rw [lexeme_minus (inside.2 c List.mem_cons_self), ← List.cons_append]
    exact integer_of_digits true inside stop valued

theorem lexeme_of_spells {first : Char} {rest text behind : List Char} {kind : TokenKind}
    (shape : first :: rest = text ++ behind) (spelled : kind.Spells text)
    (stop : ∀ c ∈ behind.head?, kind.growsBy c = false) :
    lexeme first rest = token kind (text.length - 1) := by
  cases kind with
  | symbol mark =>
    obtain rfl : text = mark.text.toList := spelled
    exact lexeme_of_symbol shape stop
  | keyword word => exact lexeme_of_word rfl shape spelled stop
  | identifier name => exact lexeme_of_word rfl shape spelled stop
  | integer value => exact lexeme_of_integer shape spelled stop
  | string content =>
    obtain ⟨inner, body, rfl⟩ := spelled
    have read := stringBody_of_spelled body behind
    rw [List.cons_append, List.cons_append, List.append_assoc] at shape
    obtain ⟨rfl, rfl⟩ := List.cons.inj shape
    simp [lexeme, read]
  | regex pattern =>
    obtain ⟨inner, body, rfl⟩ := spelled
    have read := regexBody_of_spelled body behind
    rw [List.cons_append, List.cons_append, List.append_assoc] at shape
    obtain ⟨rfl, rfl⟩ := List.cons.inj shape
    simp [lexeme, read]
  | endOfInput => exact spelled.elim

theorem kind_ne_endOfInput {first : Char} {rest : List Char} {kind : TokenKind} {more : Nat}
    (read : lexeme first rest = token kind more) : kind ≠ .endOfInput := by
  rintro rfl
  obtain ⟨_, _, _, _, spelled, _⟩ := fronts_of_lexeme read
  exact spelled.elim

end Scan

end ScoringRules
