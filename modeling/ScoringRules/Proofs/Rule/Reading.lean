import Mathlib.Computability.Language
import ScoringRules.Proofs.Rule.Grammar
import ScoringRules.Rule.Stream

/-!
Reading phrases from a stream. A language leads from a stream to the streams behind its phrases;
products of languages compose, and the parsers for single tokens, for phrases with separators and
for phrases in a row lead exactly where their languages do.
-/

namespace ScoringRules

open Grammar

namespace TokenStream

theorem ext_pending {s t : TokenStream} (pending : s.pending = t.pending)
    (finish : s.finish = t.finish) (bound : s.bound = t.bound) : s = t := by
  cases s
  cases t
  simp_all

def Over (phrases : Language Token) (s t : TokenStream) : Prop :=
  ∃ phrase ∈ phrases, s.pending = phrase ++ t.pending ∧ t.finish = s.finish ∧ t.bound = s.bound

variable {s t : TokenStream}

theorem length_le_of_over {phrases : Language Token} (spans : Over phrases s t) :
    t.pending.length ≤ s.pending.length := by
  obtain ⟨phrase, -, pending, -⟩ := spans
  rw [pending, List.length_append]
  omega

@[simp] theorem not_over_zero : ¬ Over 0 s t := by
  rintro ⟨phrase, member, -⟩
  exact member

@[simp] theorem over_one : Over 1 s t ↔ t = s := by
  constructor
  · rintro ⟨phrase, rfl, pending, finish, bound⟩
    exact ext_pending pending.symm finish bound
  · rintro rfl
    exact ⟨[], Language.nil_mem_one, rfl, rfl, rfl⟩

def drop (count : Nat) (stream : TokenStream) : TokenStream where
  pending := stream.pending.drop count
  finish := stream.finish
  bound := stream.bound
  length_le_bound := by
    have := stream.length_le_bound
    rw [List.length_drop]
    omega

@[simp] theorem over_mul {first second : Language Token} :
    Over (first * second) s t ↔ ∃ middle, Over first s middle ∧ Over second middle t := by
  constructor
  · rintro ⟨phrase, member, pending, finish, bound⟩
    obtain ⟨a, memberFirst, b, memberSecond, rfl⟩ := Language.mem_mul.mp member
    have behind : (s.drop a.length).pending = b ++ t.pending := by
      change s.pending.drop a.length = _
      rw [pending, List.append_assoc, List.drop_left]
    refine ⟨s.drop a.length, ⟨a, memberFirst, ?_, rfl, rfl⟩,
      ⟨b, memberSecond, behind, finish, bound⟩⟩
    rw [behind, pending, List.append_assoc]
  · rintro ⟨middle, ⟨a, memberFirst, pendingFirst, finishFirst, boundFirst⟩,
      ⟨b, memberSecond, pendingSecond, finishSecond, boundSecond⟩⟩
    refine ⟨a ++ b, Language.append_mem_mul memberFirst memberSecond, ?_,
      finishSecond.trans finishFirst, boundSecond.trans boundFirst⟩
    rw [pendingFirst, pendingSecond, List.append_assoc]

theorem over_of_single {phrases : Language Token}
    (single : ∀ phrase ∈ phrases, ∃ token, phrase = [token]) :
    Over phrases s t ↔
      (∃ token, s.pending.head? = some token ∧ [token] ∈ phrases) ∧ t = s.tail := by
  constructor
  · rintro ⟨phrase, member, pending, finish, bound⟩
    obtain ⟨token, rfl⟩ := single phrase member
    refine ⟨⟨token, by rw [pending]; rfl, member⟩, ext_pending ?_ finish bound⟩
    change t.pending = s.pending.tail
    rw [pending]
    rfl
  · rintro ⟨⟨token, next, member⟩, rfl⟩
    exact ⟨[token], member, (List.cons_head?_tail next).symm, rfl, rfl⟩

theorem kind_eq_iff {kind : TokenKind} (real : kind ≠ .endOfInput) :
    s.kind = kind ↔ ∃ token, s.pending.head? = some token ∧ token.kind = kind := by
  unfold TokenStream.kind
  cases s.pending.head? with
  | none => simp [real.symm]
  | some token => simp

@[simp] theorem over_token {kind : TokenKind} (real : kind ≠ .endOfInput) :
    Over (token kind) s t ↔ s.kind = kind ∧ t = s.tail := by
  rw [over_of_single, kind_eq_iff real]
  · simp only [mem_token]
  · rintro phrase ⟨location, rfl⟩
    exact ⟨_, rfl⟩

@[simp] theorem over_keyword {word : Keyword} :
    Over (keyword word) s t ↔ s.kind = .keyword word ∧ t = s.tail :=
  over_token (by simp)

@[simp] theorem over_symbol {mark : Symbol} :
    Over (symbol mark) s t ↔ s.kind = .symbol mark ∧ t = s.tail :=
  over_token (by simp)

@[simp] theorem over_word {name : String} :
    Over (word name) s t ↔ s.kind.name? = some name ∧ t = s.tail := by
  rw [over_of_single]
  · unfold TokenStream.kind
    cases s.pending.head? with
    | none => simp [TokenKind.name?]
    | some token => simp [mem_word]
  · rintro phrase ⟨location, rfl | ⟨keyword, -, rfl⟩⟩ <;> exact ⟨_, rfl⟩

@[simp] theorem over_exactly {kind : TokenKind} (real : kind ≠ .endOfInput) {location : Location} :
    Over (exactly ⟨kind, location⟩) s t ↔
      (s.kind = kind ∧ s.location = location) ∧ t = s.tail := by
  rw [over_of_single]
  · unfold TokenStream.kind TokenStream.location
    cases s.pending.head? with
    | none => simp [real.symm]
    | some token =>
      obtain ⟨other, place⟩ := token
      simp [mem_exactly]
  · rintro phrase rfl
    exact ⟨_, rfl⟩

theorem kind_of_nil (nothing : s.pending = []) : s.kind = .endOfInput := by
  rw [TokenStream.kind, nothing]
  rfl

theorem kind_of_length_le_zero (short : s.pending.length ≤ 0) : s.kind = .endOfInput :=
  kind_of_nil (List.length_eq_zero_iff.mp (Nat.le_zero.mp short))

@[simp] theorem length_pending_tail : s.tail.pending.length = s.pending.length - 1 :=
  List.length_tail

@[simp] theorem length_pending_drop (count : Nat) :
    (s.drop count).pending.length = s.pending.length - count :=
  List.length_drop

theorem length_tail_of_kind {kind : TokenKind} (real : kind ≠ .endOfInput) (next : s.kind = kind) :
    s.tail.pending.length + 1 = s.pending.length := by
  obtain ⟨token, there, -⟩ := (kind_eq_iff real).mp next
  change s.pending.tail.length + 1 = s.pending.length
  rw [← List.cons_head?_tail there]
  rfl

end TokenStream

namespace Parser

open TokenStream

variable {s t : TokenStream}

@[simp] theorem bind_eq_ok {first : Parser α} {next : α → Parser β} {b : β} :
    (first >>= next) s = .ok (b, t) ↔
      ∃ a middle, first s = .ok (a, middle) ∧ next a middle = .ok (b, t) := by
  change (first s >>= fun result => next result.1 result.2) = _ ↔ _
  rcases first s with failure | ⟨a, middle⟩ <;> simp [bind, Except.bind]

@[simp] theorem map_eq_ok {f : α → β} {parser : Parser α} {b : β} :
    (f <$> parser) s = .ok (b, t) ↔ ∃ a, parser s = .ok (a, t) ∧ f a = b := by
  change (parser s >>= fun result => .ok (f result.1, result.2)) = _ ↔ _
  rcases parser s with failure | ⟨a, middle⟩ <;> simp [bind, Except.bind, and_comm]

@[simp] theorem pure_eq_ok {a b : α} : (pure a : Parser α) s = .ok (b, t) ↔ a = b ∧ t = s := by
  change Except.ok (a, s) = _ ↔ _
  rw [Except.ok.injEq, Prod.mk.injEq, eq_comm (a := s)]

@[simp] theorem bind_peek {next : TokenKind → Parser α} : (peek >>= next) s = next s.kind s := rfl

@[simp] theorem bind_get {next : TokenStream → Parser α} : (get >>= next) s = next s s := rfl

@[simp] theorem bind_advance {next : Unit → Parser α} : (advance >>= next) s = next () s.tail := rfl

@[simp] theorem advance_eq_ok {a : Unit} : advance s = .ok (a, t) ↔ t = s.tail := by
  simp [advance, eq_comm]

@[simp] theorem not_fail_eq_ok {what : Expectation} {a : α} : ¬ fail what s = .ok (a, t) := by
  simp [fail]

theorem expect_eq_ok {kind : TokenKind} {a : Unit} :
    expect kind s = .ok (a, t) ↔ s.kind = kind ∧ t = s.tail := by
  unfold expect
  by_cases next : s.kind = kind
  · simp [next]
  · simp [next]

@[simp] theorem keyword_eq_ok {word : Keyword} {a : Unit} :
    keyword word s = .ok (a, t) ↔ s.Over (Grammar.keyword word) t := by
  rw [over_keyword]
  exact expect_eq_ok

@[simp] theorem symbol_eq_ok {mark : Symbol} {a : Unit} :
    symbol mark s = .ok (a, t) ↔ s.Over (Grammar.symbol mark) t := by
  rw [over_symbol]
  exact expect_eq_ok

/-- On streams of bounded length, a parser takes exactly the phrases that the token behind them may
follow. -/
def Reads (parser : Parser α) (phrases : α → Language Token) (follows : TokenKind → Prop)
    (size : Nat) : Prop :=
  ∀ ⦃s t : TokenStream⦄ ⦃a : α⦄, s.pending.length ≤ size →
    (parser s = .ok (a, t) ↔ s.Over (phrases a) t ∧ follows t.kind)

section Separated

variable {phrase : Parser α} {phrases : α → Language Token} {follows : TokenKind → Prop}
  {size : Nat} {separator : TokenKind}

def behindSeparators (separator : TokenKind) (phrases : α → Language Token) (items : List α) :
    Language Token :=
  (items.map fun item => token separator * phrases item).prod

theorem over_behindSeparators_cons {first : α} {rest : List α} (real : separator ≠ .endOfInput) :
    s.Over (behindSeparators separator phrases (first :: rest)) t ↔ s.kind = separator ∧
      ∃ middle, s.tail.Over (phrases first) middle ∧
        middle.Over (behindSeparators separator phrases rest) t := by
  rw [behindSeparators, List.map_cons, List.prod_cons, over_mul]
  simp [over_token real, behindSeparators, and_assoc]

theorem follows_of_over (real : separator ≠ .endOfInput) (goes : follows separator)
    {items : List α} (spans : s.Over (behindSeparators separator phrases items) t)
    (behind : follows t.kind) : follows s.kind := by
  cases items with
  | nil => rwa [← over_one.mp spans]
  | cons first rest => rwa [((over_behindSeparators_cons real).mp spans).1]

theorem over_behindSeparators_of_ne {items : List α} (real : separator ≠ .endOfInput)
    (other : s.kind ≠ separator) :
    s.Over (behindSeparators separator phrases items) t ↔ [] = items ∧ t = s := by
  cases items with
  | nil =>
    rw [behindSeparators, List.map_nil, List.prod_nil, over_one]
    simp
  | cons first rest => simp [over_behindSeparators_cons real, other]

theorem stop_iff {items : List α} (real : separator ≠ .endOfInput) (other : s.kind ≠ separator)
    (behind : follows s.kind) :
    [] = items ∧ t = s ↔ s.Over (behindSeparators separator phrases items) t ∧
      t.kind ≠ separator ∧ follows t.kind := by
  rw [over_behindSeparators_of_ne real other]
  constructor
  · rintro ⟨rfl, rfl⟩
    exact ⟨⟨rfl, rfl⟩, other, behind⟩
  · exact And.left

theorem Reads.separated (reads : Reads phrase phrases follows size)
    (real : separator ≠ .endOfInput) (goes : follows separator) {limit : Nat} {items : List α}
    (short : s.pending.length ≤ limit) (small : s.pending.length ≤ size) (behind : follows s.kind) :
    Parser.separated separator phrase limit s = .ok (items, t) ↔
      s.Over (behindSeparators separator phrases items) t ∧ t.kind ≠ separator ∧
        follows t.kind := by
  induction limit generalizing s items with
  | zero =>
    have finished := kind_of_length_le_zero short
    unfold Parser.separated
    rw [pure_eq_ok]
    exact stop_iff real (finished ▸ real.symm) behind
  | succ limit ih =>
    unfold Parser.separated
    rw [bind_peek]
    by_cases next : s.kind = separator
    · have fewer := length_tail_of_kind real next
      rw [if_pos next, bind_advance, bind_eq_ok]
      constructor
      · rintro ⟨first, middle, read, rest⟩
        obtain ⟨spans, follow⟩ := (reads (by omega)).mp read
        have shorter := length_le_of_over spans
        obtain ⟨others, last, more, done⟩ := bind_eq_ok.mp rest
        obtain ⟨rfl, rfl⟩ := pure_eq_ok.mp done
        obtain ⟨overRest, stop⟩ := (ih (by omega) (by omega) follow).mp more
        exact ⟨(over_behindSeparators_cons real).mpr ⟨next, middle, spans, overRest⟩, stop⟩
      · rintro ⟨spans, stop, follow⟩
        cases items with
        | nil => exact absurd (over_one.mp spans ▸ next) stop
        | cons first rest =>
          obtain ⟨-, middle, overFirst, overRest⟩ := (over_behindSeparators_cons real).mp spans
          have shorter := length_le_of_over overFirst
          have followFirst := follows_of_over real goes overRest follow
          refine ⟨first, middle, (reads (by omega)).mpr ⟨overFirst, followFirst⟩, ?_⟩
          rw [bind_eq_ok]
          exact ⟨rest, t, (ih (by omega) (by omega) followFirst).mpr ⟨overRest, stop, follow⟩,
            pure_eq_ok.mpr ⟨rfl, rfl⟩⟩
    · rw [if_neg next, pure_eq_ok]
      exact stop_iff real next behind

theorem joined_cons (separator : TokenKind) (phrases : α → Language Token) (first : α)
    (rest : List α) : joined (token separator) ((first :: rest).map phrases) =
      phrases first * behindSeparators separator phrases rest := by
  rw [List.map_cons, joined, List.map_map]
  rfl

theorem Reads.sepBy1 (reads : Reads phrase phrases follows size)
    (real : separator ≠ .endOfInput) (goes : follows separator) :
    Reads (Parser.sepBy1 separator phrase)
      (fun items => joined (token separator) (items.map phrases))
      (fun kind => kind ≠ separator ∧ follows kind) size := by
  intro s t items small
  unfold Parser.sepBy1
  rw [bind_eq_ok]
  constructor
  · rintro ⟨first, middle, read, rest⟩
    obtain ⟨spans, follow⟩ := (reads small).mp read
    have shorter := length_le_of_over spans
    rw [bind_get, bind_eq_ok] at rest
    obtain ⟨others, last, more, done⟩ := rest
    obtain ⟨rfl, rfl⟩ := pure_eq_ok.mp done
    obtain ⟨overRest, stop⟩ :=
      (reads.separated real goes middle.length_le_bound (by omega) follow).mp more
    refine ⟨?_, stop⟩
    dsimp only
    rw [joined_cons, over_mul]
    exact ⟨middle, spans, overRest⟩
  · rintro ⟨spans, stop, follow⟩
    cases items with
    | nil => exact (not_over_zero spans).elim
    | cons first rest =>
      dsimp only at spans
      rw [joined_cons, over_mul] at spans
      obtain ⟨middle, overFirst, overRest⟩ := spans
      have shorter := length_le_of_over overFirst
      have followFirst := follows_of_over real goes overRest follow
      refine ⟨first, middle, (reads small).mpr ⟨overFirst, followFirst⟩, ?_⟩
      rw [bind_get, bind_eq_ok]
      exact ⟨rest, t,
        (reads.separated real goes middle.length_le_bound (by omega) followFirst).mpr
          ⟨overRest, stop, follow⟩, pure_eq_ok.mpr ⟨rfl, rfl⟩⟩

end Separated

section Repeated

variable {phrase : Parser α} {phrases : α → Language Token} {size : Nat}
  {stops : TokenKind → Prop}

def Continues (phrases : α → Language Token) (stops : TokenKind → Prop) : Prop :=
  ∀ ⦃a : α⦄ ⦃s t : TokenStream⦄, s.Over (phrases a) t →
    ¬ stops s.kind ∧ t.pending.length < s.pending.length

theorem Continues.halt_iff (continues : Continues phrases stops) (stopped : stops s.kind)
    {items : List α} :
    [] = items ∧ t = s ↔ s.Over (items.map phrases).prod t ∧ stops t.kind := by
  cases items with
  | nil =>
    rw [List.map_nil, List.prod_nil, over_one]
    constructor
    · rintro ⟨-, rfl⟩
      exact ⟨rfl, stopped⟩
    · exact fun ⟨same, _⟩ => ⟨rfl, same⟩
  | cons first rest =>
    rw [List.map_cons, List.prod_cons, over_mul]
    constructor
    · rintro ⟨⟨⟩, -⟩
    · rintro ⟨⟨middle, spans, -⟩, -⟩
      exact absurd stopped (continues spans).1

theorem Reads.repeated (stops : TokenKind → Prop) [DecidablePred stops]
    (reads : Reads phrase phrases (fun _ => True) size) (continues : Continues phrases stops)
    (finished : stops .endOfInput) {loop : Nat → Parser (List α)} (never : loop 0 = pure [])
    (again : ∀ limit, loop (limit + 1) = do
      if stops (← peek) then return []
      let first ← phrase
      let rest ← loop limit
      return first :: rest)
    {limit : Nat} {items : List α} (short : s.pending.length ≤ limit)
    (small : s.pending.length ≤ size) :
    loop limit s = .ok (items, t) ↔ s.Over (items.map phrases).prod t ∧ stops t.kind := by
  induction limit generalizing s items with
  | zero =>
    -- There are turns for all tokens, so none is left, and the end of the input stops the loop.
    have nothing := kind_of_length_le_zero short
    rw [never, pure_eq_ok]
    exact continues.halt_iff (nothing ▸ finished)
  | succ limit ih =>
    rw [again, bind_peek]
    by_cases stopped : stops s.kind
    · rw [if_pos stopped]
      exact pure_eq_ok.trans (continues.halt_iff stopped)
    · rw [if_neg stopped, bind_eq_ok]
      constructor
      · rintro ⟨first, middle, read, rest⟩
        obtain ⟨spans, -⟩ := (reads small).mp read
        have fewer := (continues spans).2
        obtain ⟨others, last, more, done⟩ := bind_eq_ok.mp rest
        obtain ⟨rfl, rfl⟩ := pure_eq_ok.mp done
        obtain ⟨overRest, stop⟩ := (ih (by omega) (by omega)).mp more
        rw [List.map_cons, List.prod_cons, over_mul]
        exact ⟨⟨middle, spans, overRest⟩, stop⟩
      · rintro ⟨spans, stop⟩
        cases items with
        | nil => exact absurd (over_one.mp spans ▸ stop) stopped
        | cons first rest =>
          rw [List.map_cons, List.prod_cons, over_mul] at spans
          obtain ⟨middle, overFirst, overRest⟩ := spans
          have fewer := (continues overFirst).2
          refine ⟨first, middle, (reads small).mpr ⟨overFirst, trivial⟩, ?_⟩
          rw [bind_eq_ok]
          exact ⟨rest, t, (ih (by omega) (by omega)).mpr ⟨overRest, stop⟩,
            pure_eq_ok.mpr ⟨rfl, rfl⟩⟩

end Repeated

end Parser

end ScoringRules
