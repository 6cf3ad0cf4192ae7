import ScoringRules.Proofs.Text.Digits
import ScoringRules.Proofs.Text.PrefixCode
import ScoringRules.Text.Quoted

/-!
Quoted text tells what it quotes, and where the quotes close.
-/

namespace ScoringRules

def hexValue (digit : Char) : Nat :=
  digit.toNat - if digit.isDigit then '0'.toNat else 'a'.toNat - 10

def unquoteChar? : List Char → Option (Char × List Char)
  | [] => none
  | '\\' :: '0' :: rest => some ('\x00', rest)
  | '\\' :: 't' :: rest => some ('\t', rest)
  | '\\' :: 'r' :: rest => some ('\r', rest)
  | '\\' :: 'n' :: rest => some ('\n', rest)
  | '\\' :: 'u' :: '\x7b' :: rest =>
    let digits := rest.takeWhile (· != '\x7d')
    let code := digits.foldl (fun number digit => 16 * number + hexValue digit) 0
    some (Char.ofNat code, rest.drop (digits.length + 1))
  | '\\' :: c :: rest => some (c, rest)
  | c :: rest => some (c, rest)

theorem unquoteChar?_quotedChar (c : Char) (s : List Char) :
    unquoteChar? (quotedChar c ++ s) = some (c, s) := by
  unfold quotedChar
  split
  · rfl
  · rfl
  · rfl
  · rfl
  · rfl
  · rfl
  · rename_i slash
    split
    · rw [List.singleton_append]
      unfold unquoteChar?
      split <;> simp_all
    · have noBrace : ∀ d < 16, (Nat.digitChar d != '\x7d') = true := by decide
      have digits : (Nat.toDigits 16 c.toNat ++ '\x7d' :: s).takeWhile (· != '\x7d') =
          Nat.toDigits 16 c.toNat := by
        rw [List.takeWhile_append_of_pos, List.takeWhile_cons_of_neg, List.append_nil]
        · decide
        · intro d inside
          obtain ⟨value, below, rfl⟩ := exists_of_mem_toDigits (by decide) inside
          exact noBrace value below
      have shape : codePointEscape c ++ s =
          '\\' :: 'u' :: '\x7b' :: (Nat.toDigits 16 c.toNat ++ '\x7d' :: s) := by
        simp [codePointEscape]
      rw [shape, unquoteChar?, digits, foldl_toDigits (by decide) (by decide), Char.ofNat_toNat,
        List.drop_append]
      simp

theorem head_quotedChar (c : Char) : ∃ d, (quotedChar c).head? = some d ∧ d ≠ '"' := by
  unfold quotedChar
  split
  case h_7 _ _ _ _ _ quote _ =>
    split
    · exact ⟨c, rfl, quote⟩
    · exact ⟨'\\', rfl, by decide⟩
  all_goals exact ⟨'\\', rfl, by decide⟩

/-- Quotes around a text are the first and the last of the whole that stand alone. -/
theorem prefixCode_quoted :
    PrefixCode (fun _ : String => True) fun text => (quoted text).toList := by
  have chars : PrefixCode (fun _ : Char => True) quotedChar :=
    .of_read fun c _ => unquoteChar?_quotedChar c
  intro a b _ _ s t same
  have between := (chars.flatMap '"' fun c _ => head_quotedChar c).framed ['"'] []
  simp only [quoted, String.toList_ofList, List.append_nil] at same between
  obtain ⟨texts, behind⟩ := between (fun _ _ => trivial) (fun _ _ => trivial) same
  exact ⟨String.toList_inj.mp texts, behind⟩

end ScoringRules
