import ScoringRules.Code.Instruction
import ScoringRules.Proofs.Text.Digits
import ScoringRules.Proofs.Token.Cutting

/-!
Quoted text as a string literal. A listing quotes the strings of its instructions, and what it
shows can always be read as one literal. Two escapes are foreign to literals, that of NUL and those
of code points: where one of them stands, the literal is another string.
-/

namespace ScoringRules

/-- What stands for the character between quotes is the escape of NUL or of a code point. -/
def IsForeign (c : Char) : Prop :=
  quotedChar c = ['\\', '0'] ∨ ∃ digits, quotedChar c = ['\\', 'u', '\x7b'] ++ digits ++ ['\x7d']

namespace StringBody

variable {text spelled : List Char}

theorem append {more spelledMore : List Char} (body : StringBody text spelled)
    (bodyMore : StringBody more spelledMore) :
    StringBody (text ++ more) (spelled ++ spelledMore) := by
  induction body with
  | nil => exact bodyMore
  | plain c delimits escapes _ ih => exact .plain c delimits escapes ih
  | lineFeed _ ih => exact .lineFeed ih
  | tab _ ih => exact .tab ih
  | carriageReturn _ ih => exact .carriageReturn ih
  | escaped c other _ ih => exact .escaped c other ih

theorem of_plain (plain : ∀ c ∈ text, c ≠ '"' ∧ c ≠ '\\') : StringBody text text := by
  induction text with
  | nil => exact .nil
  | cons c text ih =>
    obtain ⟨⟨delimits, escapes⟩, plain⟩ := List.forall_mem_cons.mp plain
    exact .plain c delimits escapes (ih plain)

end StringBody

theorem stringBody_codePointEscape (c : Char) :
    StringBody ('u' :: '\x7b' :: Nat.toDigits 16 c.toNat ++ ['\x7d']) (codePointEscape c) := by
  have digit : ∀ d < 16, Nat.digitChar d ≠ '"' ∧ Nat.digitChar d ≠ '\\' := by decide
  refine .escaped 'u' (by decide) (.of_plain fun d member => ?_)
  rcases List.mem_cons.mp member with rfl | member
  · decide
  rcases List.mem_append.mp member with member | member
  · obtain ⟨value, below, rfl⟩ := exists_of_mem_toDigits (by decide) member
    exact digit value below
  · obtain rfl := List.mem_singleton.mp member
    decide

theorem exists_body_quotedChar (c : Char) :
    ∃ read, read ≠ [] ∧ StringBody read (quotedChar c) ∧ (read = [c] ↔ ¬ IsForeign c) := by
  unfold IsForeign quotedChar
  split
  · exact ⟨['0'], by simp, .escaped '0' (by decide) .nil, by simp⟩
  · exact ⟨['\t'], by simp, .tab .nil, by simp⟩
  · exact ⟨['\r'], by simp, .carriageReturn .nil, by simp⟩
  · exact ⟨['\n'], by simp, .lineFeed .nil, by simp⟩
  · exact ⟨['"'], by simp, .escaped '"' (by decide) .nil, by simp⟩
  · exact ⟨['\\'], by simp, .escaped '\\' (by decide) .nil, by simp⟩
  · rename_i quote backslash
    split
    · exact ⟨[c], by simp, .plain c quote backslash .nil, by simp⟩
    · exact ⟨_, List.cons_ne_nil _ _, stringBody_codePointEscape c,
        iff_of_false (by simp) (not_not_intro (.inr ⟨_, rfl⟩))⟩

/-- A literal reads no fewer characters than are quoted, and the same ones if and only if no escape
among them is foreign. -/
theorem exists_body_flatMap_quotedChar (text : List Char) :
    ∃ read, StringBody read (text.flatMap quotedChar) ∧ text.length ≤ read.length ∧
      (read = text ↔ ∀ c ∈ text, ¬ IsForeign c) := by
  induction text with
  | nil => exact ⟨[], .nil, Nat.le_refl _, by simp⟩
  | cons c text ih =>
    obtain ⟨first, nonempty, body, same⟩ := exists_body_quotedChar c
    obtain ⟨rest, bodyRest, long, sameRest⟩ := ih
    have positive := List.length_pos_iff.mpr nonempty
    refine ⟨first ++ rest, ?_, ?_, ?_⟩
    · rw [List.flatMap_cons]
      exact body.append bodyRest
    · rw [List.length_append, List.length_cons]
      omega
    · rw [List.forall_mem_cons, ← same, ← sameRest]
      constructor
      · intro whole
        -- A longer reading of the first character would leave too few for the others.
        have lengths := congrArg List.length whole
        rw [List.length_append, List.length_cons] at lengths
        have one : first.length = [c].length := by
          rw [List.length_singleton]
          omega
        exact List.append_inj (whole : first ++ rest = [c] ++ text) one
      · rintro ⟨rfl, rfl⟩
        rfl

namespace Cursor

theorem Yields.unique {cursor : Cursor} {kinds others : List TokenKind}
    (yields : cursor.Yields kinds) (again : cursor.Yields others) : kinds = others := by
  obtain ⟨tokens, read, same⟩ := yields
  obtain ⟨tokensToo, readToo, sameToo⟩ := again
  obtain rfl := Except.ok.inj (read.symm.trans readToo)
  exact List.append_cancel_right (same.symm.trans sameToo)

/-- A string as it is listed is read as one literal: as that of the string itself if and only if no
character of it is shown by a foreign escape, and else as that of another string. -/
theorem yields_text_string (text : String) :
    ((ofString (Operand.string text).text).Yields [.string text] ↔
      ∀ c ∈ text.toList, ¬ IsForeign c) ∧
    ∃ read, (ofString (Operand.string text).text).Yields [.string read] ∧
      (read ≠ text ↔ ∃ c ∈ text.toList, IsForeign c) := by
  obtain ⟨read, body, -, same⟩ := exists_body_flatMap_quotedChar text.toList
  have yields : (ofString (Operand.string text).text).Yields [.string (String.ofList read)] := by
    rw [yields_iff_isCut]
    refine isCut_single ⟨text.toList.flatMap quotedChar, ?_, ?_⟩
    · rwa [String.toList_ofList]
    · simp [ofString, Operand.text, quoted]
  have same : String.ofList read = text ↔ ∀ c ∈ text.toList, ¬ IsForeign c := by
    rw [← same, ← String.toList_inj, String.toList_ofList]
  refine ⟨?_, _, yields, ?_⟩
  · rw [← same]
    constructor
    · intro itself
      cases yields.unique itself
      rfl
    · intro equal
      rwa [equal] at yields
  · rw [Ne, same]
    push Not
    rfl

example : (ofString (Operand.string "\x00\t7").text).tokenize.1.map (·.map Token.kind) =
    .ok [.string "0\t7", .endOfInput] := by cbv

end Cursor

end ScoringRules
