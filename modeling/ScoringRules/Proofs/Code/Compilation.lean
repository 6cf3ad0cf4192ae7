import Mathlib
import ScoringRules.Program
import ScoringRules.Proofs.Code.Generation
import ScoringRules.Proofs.Rule.Parsing
import ScoringRules.Proofs.Rule.Patterns
import ScoringRules.Proofs.Token.Reading

/-!
Compiling a source that can be read. Its tokens are a phrase of its statements, so only a refused
pattern can stop it, and the first one in the source is reported.
-/

namespace ScoringRules

namespace Code

def Reads (source : String) (tokens : List Token) (rules : List Statement) : Prop :=
  (Cursor.ofString source).tokenize.1 = .ok tokens ∧
    (TokenStream.ofTokens tokens).parse.1 = .ok rules

variable {accepts : String → Bool} {source : String} {tokens : List Token}
  {rules : List Statement} {code : Code}

theorem Reads.unique {others : List Token} {statements : List Statement}
    (reads : Reads source tokens rules) (again : Reads source others statements) :
    others = tokens ∧ statements = rules := by
  obtain rfl := Except.ok.inj (again.1.symm.trans reads.1)
  exact ⟨rfl, Except.ok.inj (again.2.symm.trans reads.2)⟩

theorem compile_eq_stages (accepts : String → Bool) (source : String) :
    compile accepts source = (do
      let tokens ← (Cursor.ofString source).tokenize.1
      let rules ← (TokenStream.ofTokens tokens).parse.1
      (generate accepts rules).1) := by
  unfold compile tracedCompile readTokens readRules
  rcases (Cursor.ofString source).tokenize with ⟨fault | tokens, cursor⟩
  · rfl
  · change _ = (TokenStream.ofTokens tokens).parse.1 >>= _
    simp only
    rcases (TokenStream.ofTokens tokens).parse with ⟨fault | rules, stream⟩ <;> rfl

theorem compile_of_reads (reads : Reads source tokens rules) :
    compile accepts source = (generate accepts rules).1 := by
  rw [compile_eq_stages, reads.1]
  change (TokenStream.ofTokens tokens).parse.1 >>= _ = _
  rw [reads.2]
  rfl

theorem tracedCompile_of_reads (reads : Reads source tokens rules) :
    tracedCompile accepts source = ((generate accepts rules).1,
      .tokenized tokens.length :: .parsed rules.length :: (generate accepts rules).2) := by
  obtain ⟨rest, lexed⟩ : ∃ rest, (Cursor.ofString source).tokenize = (.ok tokens, rest) :=
    ⟨_, Prod.ext reads.1 rfl⟩
  obtain ⟨last, parsed⟩ : ∃ last, (TokenStream.ofTokens tokens).parse = (.ok rules, last) :=
    ⟨_, Prod.ext reads.2 rfl⟩
  unfold tracedCompile readTokens readRules
  rw [lexed]
  dsimp only
  rw [parsed]
  rfl

theorem reads_of_compile (compiled : compile accepts source = .ok code) :
    ∃ tokens rules, Reads source tokens rules ∧ (generate accepts rules).1 = .ok code := by
  rw [compile_eq_stages] at compiled
  obtain ⟨tokens, lexed, compiled⟩ := Except.bind_eq_ok.mp compiled
  obtain ⟨rules, parsed, generated⟩ := Except.bind_eq_ok.mp compiled
  exact ⟨tokens, rules, ⟨lexed, parsed⟩, generated⟩

theorem reads_iff : Reads source tokens rules ↔ (Cursor.ofString source).Lexes tokens ∧
    ∃ inner finish, tokens = inner ++ [finish] ∧ finish.kind = .endOfInput ∧
      (∀ token ∈ inner, token.kind ≠ .endOfInput) ∧ inner ∈ Grammar.statements rules := by
  unfold Reads
  rw [Cursor.tokenize_iff_lexes]
  refine and_congr_right fun lexes => ⟨fun parsed => ?_, ?_⟩
  · obtain ⟨inner, finish, rfl, ends, inside⟩ := lexes.ends
    have pending := TokenStream.ofTokens_concat inside ends
    have member := TokenStream.mem_of_parse (pending.symm ▸ inside) parsed
    exact ⟨inner, finish, rfl, ends, inside, pending ▸ member⟩
  · rintro ⟨inner, finish, rfl, ends, inside, member⟩
    have pending := TokenStream.ofTokens_concat inside ends
    exact TokenStream.parse_of_mem (pending.symm ▸ member)

/-- The first defect of the statements is the first refused pattern of the tokens. -/
theorem statementsDefect?_of_reads (reads : Reads source tokens rules) :
    statementsDefect? accepts rules = tokens.findSome? (Token.defect? accepts) := by
  obtain ⟨-, inner, finish, rfl, ends, -, member⟩ := reads_iff.mp reads
  have last : finish.defect? accepts = none := by
    rw [Token.defect?_eq_none_iff, ends]
    exact fun _ => nofun
  rw [List.findSome?_append, Finds.statements rules inner member, List.findSome?_singleton, last,
    Option.or_none]

theorem compile_eq_error_iff (reads : Reads source tokens rules) {error : CompileError} :
    compile accepts source = .error error ↔
      tokens.findSome? (Token.defect? accepts) = some error := by
  rw [compile_of_reads reads, ← statementsDefect?_of_reads reads]
  cases found : statementsDefect? accepts rules with
  | some other => simp [generate_of_defect found]
  | none => simp [generate_of_sound found]

theorem exists_compile_iff (reads : Reads source tokens rules) :
    (∃ code, compile accepts source = .ok code) ↔
      tokens.findSome? (Token.defect? accepts) = none := by
  rw [compile_of_reads reads, ← statementsDefect?_of_reads reads]
  cases found : statementsDefect? accepts rules with
  | some other => simp [generate_of_defect found]
  | none => simp [generate_of_sound found]

theorem invalidRegex_of_compile (reads : Reads source tokens rules) {error : CompileError}
    (failed : compile accepts source = .error error) :
    ∃ pattern location, error = .invalidRegex pattern location := by
  have found := (compile_eq_error_iff reads).mp failed
  obtain ⟨token, -, refused⟩ := List.exists_of_findSome?_eq_some found
  obtain ⟨pattern, -, -, rfl⟩ := Token.defect?_eq_some_iff.mp refused
  exact ⟨pattern, token.location, rfl⟩

/-- A source that can be read compiles if and only if none of its patterns is refused. Otherwise
the error is for the first refused pattern in the source, with the place of its opening slash. -/
theorem compile_refuses_first (reads : Reads source tokens rules) :
    ((∃ code, compile accepts source = .ok code) ↔
      ∀ token ∈ tokens, ∀ pattern, token.kind = .regex pattern → accepts pattern = true) ∧
    (∀ error, compile accepts source = .error error ↔
      ∃ before token behind pattern, tokens = before ++ token :: behind ∧
        token.kind = .regex pattern ∧ accepts pattern = false ∧
        (∀ earlier ∈ before, ∀ other, earlier.kind = .regex other → accepts other = true) ∧
        error = .invalidRegex pattern token.location) ∧
    (∀ kind, compile accepts source ≠ .error (.emptyNode kind)) ∧
    (∀ index, compile accepts source ≠ .error (.unpatched index)) ∧
    ∀ token ∈ tokens, ∀ pattern, token.kind = .regex pattern →
      ∃ before spelled behind, source.toList = before ++ '/' :: (spelled ++ '/' :: behind) ∧
        RegexBody pattern.toList spelled ∧ token.location = Location.start.after before := by
  refine ⟨?_, fun error => ?_, fun kind failed => ?_, fun index failed => ?_, ?_⟩
  · rw [exists_compile_iff reads]
    simp only [List.findSome?_eq_none_iff, Token.defect?_eq_none_iff]
  · rw [compile_eq_error_iff reads, List.findSome?_eq_some_iff]
    simp only [Token.defect?_eq_some_iff, Token.defect?_eq_none_iff]
    constructor
    · rintro ⟨before, token, behind, rfl, ⟨pattern, same, refused, rfl⟩, earlier⟩
      exact ⟨before, token, behind, pattern, rfl, same, refused, earlier, rfl⟩
    · rintro ⟨before, token, behind, pattern, rfl, same, refused, earlier, rfl⟩
      exact ⟨before, token, behind, rfl, ⟨pattern, same, refused, rfl⟩, earlier⟩
  · obtain ⟨_, _, other⟩ := invalidRegex_of_compile reads failed
    cases other
  · obtain ⟨_, _, other⟩ := invalidRegex_of_compile reads failed
    cases other
  · intro token member pattern same
    have real : token.kind ≠ .endOfInput := by simp [same]
    obtain ⟨before, text, behind, whole, spelled, place⟩ :=
      (reads_iff.mp reads).1.spelled member real
    rw [same] at spelled
    obtain ⟨spelled, body, rfl⟩ := spelled
    exact ⟨before, spelled, behind, by simpa [Cursor.ofString] using whole, body, place⟩

theorem compile_refuses_first_inList :
    let tokens : List Token := [⟨.keyword .when, ⟨0, 1, 1⟩⟩, ⟨.integer 1, ⟨5, 1, 6⟩⟩,
      ⟨.keyword .in_, ⟨7, 1, 8⟩⟩, ⟨.symbol .leftBracket, ⟨10, 1, 11⟩⟩, ⟨.regex "a", ⟨11, 1, 12⟩⟩,
      ⟨.symbol .comma, ⟨14, 1, 15⟩⟩, ⟨.regex "(", ⟨16, 1, 17⟩⟩, ⟨.symbol .comma, ⟨19, 1, 20⟩⟩,
      ⟨.regex "[", ⟨20, 1, 21⟩⟩, ⟨.symbol .rightBracket, ⟨23, 1, 24⟩⟩,
      ⟨.keyword .then_, ⟨25, 1, 26⟩⟩, ⟨.keyword .done, ⟨30, 1, 31⟩⟩, ⟨.endOfInput, ⟨34, 1, 35⟩⟩]
    let rules : List Statement := [.rule [[.list (.int 1) false
      [.regex "a" ⟨11, 1, 12⟩, .regex "(" ⟨16, 1, 17⟩, .regex "[" ⟨20, 1, 21⟩]]] []]
    Reads "when 1 in [/a/, /(/,/[/] then done" tokens rules ∧
      compile (fun pattern => pattern == "a") "when 1 in [/a/, /(/,/[/] then done" =
        .error (.invalidRegex "(" ⟨16, 1, 17⟩) := by
  intro tokens rules
  have reads : Reads "when 1 in [/a/, /(/,/[/] then done" tokens rules := ⟨by cbv, by cbv⟩
  refine ⟨reads, ((compile_refuses_first reads).2.1 _).mpr
    ⟨tokens.take 6, ⟨.regex "(", ⟨16, 1, 17⟩⟩, tokens.drop 7, "(", rfl, rfl, by decide, ?_, rfl⟩⟩
  simp [tokens]

end Code

end ScoringRules
