import ScoringRules.Toml.Printer

/-!
Strings of TOML read back. Whatever form a string is written in, the reader gives the string, and
stops behind the form.
-/

namespace ScoringRules.Toml

def withFront (c : Char) (result : Option (List Char × List Char)) :
    Option (List Char × List Char) :=
  result.map fun (text, rest) => (c :: text, rest)

def Reads (read : List Char → Option (List Char × List Char)) (c : Char) (chars : List Char) :
    Prop :=
  ∀ s, read (chars ++ s) = withFront c (read s)

theorem bind_eq_withFront {result : Option (List Char × List Char)} (c : Char) :
    (do
      let (text, rest) ← result
      return (c :: text, rest)) = withFront c result := by
  cases result <;> rfl

/-- A reader between double quotes: escapes are undone, and other characters stand for
themselves. -/
structure Unescapes (read : List Char → Option (List Char × List Char)) : Prop where
  mark : ∀ {mark c}, escaped? mark = some c → Reads read c ['\\', mark]
  code : ∀ {h i j k c}, charOfHex? [h, i, j, k] = some c → Reads read c ['\\', 'u', h, i, j, k]
  plain : ∀ {c}, isPlain c = true → c ≠ '"' → c ≠ '\\' → Reads read c [c]

theorem unescapes_basicString? : Unescapes basicString? where
  mark := by
    intro mark c known s
    unfold escaped? at known
    split at known <;> cases known <;> exact bind_eq_withFront _
  code := by
    intro h i j k c known s
    change (do
      let value ← charOfHex? [h, i, j, k]
      let (text, rest) ← basicString? s
      return (value :: text, rest)) = _
    rw [known]
    exact bind_eq_withFront c
  plain := by
    intro c plain quote slash s
    rw [List.singleton_append, basicString?]
    · simp only [plain, bne_iff_ne.mpr slash, Bool.and_self, if_true]
      exact bind_eq_withFront c
    all_goals simp_all

theorem unescapes_basicLines? : Unescapes (basicLines? false) where
  mark := by
    intro mark c known s
    unfold escaped? at known
    split at known <;> cases known <;> exact bind_eq_withFront _
  code := by
    intro h i j k c known s
    change (do
      let value ← charOfHex? [h, i, j, k]
      let (text, rest) ← basicLines? false s
      return (value :: text, rest)) = _
    rw [known]
    exact bind_eq_withFront c
  plain := by
    intro c plain quote slash s
    have noReturn : c ≠ '\r' := by
      rintro rfl
      exact absurd plain (by decide)
    rw [List.singleton_append, basicLines?]
    · simp only [plain, Bool.false_and, Bool.false_eq_true, if_false, Bool.true_or, if_true]
      exact bind_eq_withFront c
    all_goals simp_all

theorem toNat_of_isControl {c : Char} (control : isControl c = true) : c.toNat < 128 := by
  simp only [isControl, isPlain, Bool.not_eq_true', Bool.or_eq_false_iff, Bool.and_eq_false_iff,
    decide_eq_false_iff_not, bne_eq_false_iff_eq] at control
  omega

theorem exists_unicodeEscape {c : Char} (control : isControl c = true) :
    ∃ h i j k, unicodeEscape c = ['\\', 'u', h, i, j, k] ∧ charOfHex? [h, i, j, k] = some c := by
  have all : ∀ n < 128, isControl (Char.ofNat n) = true →
      (unicodeEscape (Char.ofNat n)).take 2 = ['\\', 'u'] ∧
      (unicodeEscape (Char.ofNat n)).length = 6 ∧
      charOfHex? ((unicodeEscape (Char.ofNat n)).drop 2) = some (Char.ofNat n) := by decide
  obtain ⟨start, length, value⟩ := all c.toNat (toNat_of_isControl control)
    (by rwa [Char.ofNat_toNat])
  rw [Char.ofNat_toNat] at start length value
  match unicodeEscape c, start, length, value with
  | [_, _, h, i, j, k], rfl, _, value => exact ⟨h, i, j, k, rfl, value⟩

theorem Unescapes.escapeChar {read : List Char → Option (List Char × List Char)}
    (unescapes : Unescapes read) {c : Char} (quote : c ≠ '"') : Reads read c (escapeChar c) := by
  unfold Toml.escapeChar
  split
  case h_7 slash =>
    split
    · obtain ⟨h, i, j, k, shape, value⟩ := exists_unicodeEscape ‹_›
      rw [shape]
      exact unescapes.code value
    · rename_i plain
      rw [isControl, Bool.not_eq_true', Bool.not_eq_false] at plain
      exact unescapes.plain plain quote slash
  all_goals exact unescapes.mark rfl

theorem exists_escapeChar (c : Char) :
    ∃ d rest, escapeChar c = d :: rest ∧ d ≠ '\n' ∧ d ≠ '\r' ∧ (c ≠ '"' → d ≠ '"') := by
  unfold escapeChar
  split
  case h_7 lineFeed _ carriageReturn _ =>
    split
    · exact ⟨_, _, rfl, by decide, by decide, fun _ => by decide⟩
    · exact ⟨c, [], rfl, lineFeed, carriageReturn, id⟩
  all_goals exact ⟨_, _, rfl, by decide, by decide, fun _ => by decide⟩

section Basic

theorem basicForm_append (text rest : List Char) : basicForm text ++ rest = '"' ::
    (text.flatMap (fun c => if c = '"' then ['\\', '"'] else escapeChar c) ++ '"' :: rest) := by
  simp [basicForm]

theorem literalForm_append (text rest : List Char) :
    literalForm text ++ rest = '\'' :: (text ++ '\'' :: rest) := by
  simp [literalForm]

theorem basicString?_flatMap (text rest : List Char) :
    basicString? (text.flatMap (fun c => if c = '"' then ['\\', '"'] else escapeChar c) ++
      '"' :: rest) = some (text, rest) := by
  induction text with
  | nil => rfl
  | cons c text ih =>
    have char : Reads basicString? c (if c = '"' then ['\\', '"'] else escapeChar c) := by
      split
      · subst c
        exact unescapes_basicString?.mark rfl
      · exact unescapes_basicString?.escapeChar ‹_›
    rw [List.flatMap_cons, List.append_assoc, char, ih]
    rfl

theorem string?_basicForm (text rest : List Char) :
    string? (basicForm text ++ '\n' :: rest) = some (text, '\n' :: rest) := by
  rw [basicForm_append, string?, basicString?_flatMap]
  intro behind same
  cases text with
  | nil => cases same
  | cons c text =>
    obtain ⟨d, more, chars, -, -, other⟩ := exists_escapeChar c
    by_cases quote : c = '"'
    · simp [quote] at same
    · simp [quote, chars, other quote] at same

theorem literalString?_append {text : List Char}
    (inside : ∀ c ∈ text, isPlain c = true ∧ c ≠ '\'') (rest : List Char) :
    literalString? (text ++ '\'' :: rest) = some (text, rest) := by
  have within : ∀ c ∈ text, (isPlain c && c != '\'') = true := fun c member =>
    Bool.and_eq_true_iff.mpr ⟨(inside c member).1, bne_iff_ne.mpr (inside c member).2⟩
  have after : (text ++ '\'' :: rest).dropWhile (fun c => isPlain c && c != '\'') =
      '\'' :: rest := List.dropWhile_append_of_pos within
  have before : (text ++ '\'' :: rest).takeWhile (fun c => isPlain c && c != '\'') = text :=
    (List.takeWhile_append_of_pos within).trans (List.append_nil text)
  unfold literalString?
  dsimp only
  rw [after, before]
  rfl

theorem string?_literalForm {text : List Char}
    (inside : ∀ c ∈ text, isPlain c = true ∧ c ≠ '\'') (rest : List Char) :
    string? (literalForm text ++ '\n' :: rest) = some (text, '\n' :: rest) := by
  rw [literalForm_append, string?, literalString?_append inside]
  intro behind same
  cases text with
  | nil => cases same
  | cons c text => exact (inside c List.mem_cons_self).2 (List.cons.inj same).1

end Basic

section Lines

theorem basicLines?_quote {s : List Char} (alone : ∀ t, s ≠ '"' :: '"' :: t) :
    basicLines? false ('"' :: s) = withFront '"' (basicLines? false s) := by
  rw [basicLines?]
  · exact bind_eq_withFront '"'
  all_goals simp_all

theorem basicLines?_lineFeed (s : List Char) :
    basicLines? false ('\n' :: s) = withFront '\n' (basicLines? false s) := by
  rw [basicLines?]
  · exact bind_eq_withFront '\n'
  all_goals simp

theorem literalLines?_quote {s : List Char} (alone : ∀ t, s ≠ '\'' :: '\'' :: t) :
    literalLines? ('\'' :: s) = withFront '\'' (literalLines? s) := by
  rw [literalLines?]
  · exact bind_eq_withFront '\''
  all_goals simp_all

theorem literalLines?_other {c : Char} (plain : isPlain c = true ∨ c = '\n') (quote : c ≠ '\'')
    (s : List Char) : literalLines? (c :: s) = withFront c (literalLines? s) := by
  have noReturn : c ≠ '\r' := by
    rintro rfl
    exact absurd plain (by decide)
  rw [literalLines?]
  · rw [if_pos (by simpa using plain)]
    exact bind_eq_withFront c
  all_goals simp_all

theorem ne_quote_escapeLines {c : Char} {quotes : Nat} (text s t : List Char)
    (other : c = '"' → quotes = 2) : escapeLines quotes (c :: text) ++ s ≠ '"' :: t := by
  intro same
  rw [escapeLines] at same
  split at same
  · rw [if_pos (other ‹_›)] at same
    exact absurd (List.cons.inj same).1 (by decide)
  · split at same
    · exact absurd (List.cons.inj same).1 (by decide)
    · obtain ⟨d, more, chars, -, -, noQuote⟩ := exists_escapeChar c
      rw [chars] at same
      exact noQuote ‹_› (List.cons.inj same).1

/-- Behind one quote or two there are two more only at the end. -/
theorem eq_of_escapeLines {text s t : List Char} {quotes : Nat} (one : 1 ≤ quotes)
    (few : quotes ≤ 2) (ahead : escapeLines quotes text ++ s = '"' :: '"' :: t) :
    text = [] ∨ text = ['"'] ∧ quotes = 1 := by
  match text with
  | [] => exact .inl rfl
  | c :: more =>
    by_cases first : c = '"' → quotes = 2
    · exact absurd ahead (ne_quote_escapeLines more s _ first)
    · obtain ⟨rfl, notTwo⟩ := Classical.not_imp.mp first
      obtain rfl : quotes = 1 := by omega
      match more with
      | [] => exact .inr ⟨rfl, rfl⟩
      | d :: more =>
        exact absurd (List.cons.inj ahead).2 (ne_quote_escapeLines more s t fun _ => rfl)

theorem basicLines?_escapeLines (text rest : List Char) {quotes : Nat} (few : quotes ≤ 2) :
    basicLines? false (escapeLines quotes text ++ '"' :: '"' :: '"' :: '\n' :: rest) =
      some (text, '\n' :: rest) := by
  induction text generalizing quotes with
  | nil => rfl
  | cons c text ih =>
    by_cases quote : c = '"'
    · subst c
      rw [escapeLines, if_pos rfl]
      split
      · have escaped : Reads (basicLines? false) '"' ['\\', '"'] := unescapes_basicLines?.mark rfl
        exact (escaped _).trans (congrArg (withFront '"') (ih (Nat.zero_le 2)))
      · have fewer : quotes + 1 ≤ 2 := by omega
        by_cases ahead : ∃ t, escapeLines (quotes + 1) text ++ '"' :: '"' :: '"' :: '\n' :: rest =
            '"' :: '"' :: t
        · obtain ⟨t, ahead⟩ := ahead
          rcases eq_of_escapeLines (Nat.le_add_left 1 quotes) fewer ahead with
            rfl | ⟨rfl, single⟩
          · rfl
          · obtain rfl : quotes = 0 := by omega
            rfl
        · exact (basicLines?_quote (not_exists.mp ahead)).trans
            (congrArg (withFront '"') (ih fewer))
    · have behind := ih (Nat.zero_le 2)
      rw [escapeLines, if_neg quote]
      split
      · subst c
        exact (basicLines?_lineFeed _).trans (congrArg (withFront '\n') behind)
      · rw [List.append_assoc, unescapes_basicLines?.escapeChar quote, behind]
        rfl

theorem literalLines?_append {text : List Char}
    (inside : ∀ c ∈ text, isPlain c = true ∨ c = '\n') {quotes : Nat} (few : quotes ≤ 2)
    (apart : hasTriple '\'' quotes text = false) (rest : List Char) :
    literalLines? (text ++ '\'' :: '\'' :: '\'' :: '\n' :: rest) = some (text, '\n' :: rest) := by
  induction text generalizing quotes with
  | nil => rfl
  | cons c text ih =>
    obtain ⟨plain, insideRest⟩ := List.forall_mem_cons.mp inside
    rw [hasTriple] at apart
    by_cases quote : c = '\''
    · subst c
      simp only [if_true, Bool.or_eq_false_iff, decide_eq_false_iff_not] at apart
      have behind := ih insideRest (by omega) apart.2
      by_cases ahead : ∃ t, text ++ '\'' :: '\'' :: '\'' :: '\n' :: rest = '\'' :: '\'' :: t
      · obtain ⟨t, ahead⟩ := ahead
        match text with
        | [] => rfl
        | [d] =>
          obtain rfl : d = '\'' := (List.cons.inj ahead).1
          rfl
        | d :: e :: more =>
          obtain rfl : d = '\'' := (List.cons.inj ahead).1
          obtain rfl : e = '\'' := (List.cons.inj (List.cons.inj ahead).2).1
          simp [hasTriple] at apart
          omega
      · exact (literalLines?_quote (not_exists.mp ahead)).trans (congrArg (withFront '\'') behind)
    · rw [if_neg quote] at apart
      exact (literalLines?_other plain quote _).trans
        (congrArg (withFront c) (ih insideRest (Nat.zero_le 2) apart))

theorem lineBreak?_cons {c : Char} (lineFeed : c ≠ '\n') (carriageReturn : c ≠ '\r')
    (s : List Char) : lineBreak? (c :: s) = none := by
  unfold lineBreak?
  split <;> simp_all

theorem trimBreak_openingBreak {text s : List Char}
    (first : '\n' ∉ text → lineBreak? s = none) : trimBreak (openingBreak text ++ s) = s := by
  unfold openingBreak
  split
  · rfl
  · rename_i unbroken
    rw [List.contains_iff_mem] at unbroken
    rw [List.nil_append, trimBreak, first unbroken, Option.getD_none]

theorem string?_basicLinesForm (text rest : List Char) :
    string? (basicLinesForm text ++ '\n' :: rest) = some (text, '\n' :: rest) := by
  have shape : basicLinesForm text ++ '\n' :: rest = '"' :: '"' :: '"' :: (openingBreak text ++
      (escapeLines 0 text ++ '"' :: '"' :: '"' :: '\n' :: rest)) := by simp [basicLinesForm]
  rw [shape, string?, trimBreak_openingBreak, basicLines?_escapeLines text rest (Nat.zero_le 2)]
  intro unbroken
  match text with
  | [] => rfl
  | c :: text =>
    rw [escapeLines]
    split
    · exact lineBreak?_cons (by decide) (by decide) _
    · split
      · subst c
        exact absurd List.mem_cons_self unbroken
      · obtain ⟨d, more, chars, lineFeed, carriageReturn, -⟩ := exists_escapeChar c
        rw [chars]
        exact lineBreak?_cons lineFeed carriageReturn _

theorem string?_literalLinesForm {text : List Char}
    (inside : ∀ c ∈ text, isPlain c = true ∨ c = '\n') (apart : hasTriple '\'' 0 text = false)
    (rest : List Char) :
    string? (literalLinesForm text ++ '\n' :: rest) = some (text, '\n' :: rest) := by
  have shape : literalLinesForm text ++ '\n' :: rest = '\'' :: '\'' :: '\'' ::
      (openingBreak text ++ (text ++ '\'' :: '\'' :: '\'' :: '\n' :: rest)) := by
    simp [literalLinesForm]
  rw [shape, string?, trimBreak_openingBreak,
    literalLines?_append inside (Nat.zero_le 2) apart rest]
  intro unbroken
  match text with
  | [] => rfl
  | c :: text =>
    have other : c ≠ '\n' := fun same => unbroken (same ▸ List.mem_cons_self)
    refine lineBreak?_cons other (fun same => ?_) _
    subst c
    exact absurd (inside '\r' List.mem_cons_self) (by decide)

end Lines

theorem isPlain_of_uncontrolled {text : List Char} {c : Char} (member : c ∈ text)
    (uncontrolled : (text.any fun c => isControl c && c != '\n') = false) :
    isPlain c = true ∨ c = '\n' := by
  have plain := List.any_eq_false.mp uncontrolled c member
  cases shown : isPlain c with
  | true => exact .inl rfl
  | false => exact .inr (by simpa [isControl, shown] using plain)

inductive IsStringForm (text : List Char) : List Char → Prop where
  | basic : IsStringForm text (basicForm text)
  | literal (inside : ∀ c ∈ text, isPlain c = true ∧ c ≠ '\'') :
      IsStringForm text (literalForm text)
  | basicLines : IsStringForm text (basicLinesForm text)
  | literalLines (inside : ∀ c ∈ text, isPlain c = true ∨ c = '\n')
      (apart : hasTriple '\'' 0 text = false) : IsStringForm text (literalLinesForm text)

theorem isStringForm_stringForm (value : String) :
    IsStringForm value.toList (stringForm value) := by
  unfold stringForm
  dsimp only
  split
  · exact .basic
  split
  · rename_i literal
    simp only [Bool.and_eq_true, Bool.not_eq_true', List.contains_eq_mem,
      decide_eq_false_iff_not] at literal
    obtain ⟨⟨uncontrolled, unbroken⟩, unquoted⟩ := literal
    refine .literal fun c member => ⟨?_, fun quote => unquoted (quote ▸ member)⟩
    exact (isPlain_of_uncontrolled member uncontrolled).resolve_right
      fun lineFeed => unbroken (lineFeed ▸ member)
  split
  · exact .basicLines
  split
  · rename_i literal
    simp only [Bool.and_eq_true, Bool.not_eq_true'] at literal
    exact .literalLines (fun c member => isPlain_of_uncontrolled member literal.1) literal.2
  split
  · exact .basicLines
  · exact .basic

namespace IsStringForm

variable {text form : List Char}

theorem string?_append (shown : IsStringForm text form) (rest : List Char) :
    string? (form ++ '\n' :: rest) = some (text, '\n' :: rest) := by
  cases shown with
  | basic => exact string?_basicForm text rest
  | literal inside => exact string?_literalForm inside rest
  | basicLines => exact string?_basicLinesForm text rest
  | literalLines inside apart => exact string?_literalLinesForm inside apart rest

theorem exists_cons (shown : IsStringForm text form) :
    ∃ c rest, form = c :: rest ∧ (c = '"' ∨ c = '\'') := by
  cases shown with
  | basic | basicLines => exact ⟨_, _, rfl, .inl rfl⟩
  | literal | literalLines => exact ⟨_, _, rfl, .inr rfl⟩

end IsStringForm

end ScoringRules.Toml
