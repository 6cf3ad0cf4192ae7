import Mathlib.Computability.Language
import Mathlib.Order.CompletePartialOrder
import ScoringRules.Proofs.Rule.Reading

/-!
How far a parser looks. It stops behind a phrase, or where a phrase has begun and cannot go on; what
it does depends only on the tokens in front of that place and on the kind of the next one. Two
parsers are followed at once, since the bounds on loops and on nesting differ between streams.
-/

namespace ScoringRules

open Grammar

namespace Grammar

/-- What tokens before the end of input complete to a phrase. -/
def beginnings (phrases : Language Token) : Language Token :=
  {front | ∃ rest, (∀ token ∈ rest, token.kind ≠ .endOfInput) ∧ front ++ rest ∈ phrases}

/-- Some phrase consists of tokens before the end of input. -/
class Completable (phrases : Language Token) : Prop where
  nil_mem : [] ∈ beginnings phrases

variable {first second phrases : Language Token} {front phrase : List Token}

theorem mem_beginnings_of_mem (member : phrase ∈ phrases) : phrase ∈ beginnings phrases :=
  ⟨[], List.forall_mem_nil _, by rwa [List.append_nil]⟩

theorem beginnings_mono (sub : first ≤ second) : beginnings first ≤ beginnings second :=
  fun _ ⟨rest, real, whole⟩ => ⟨rest, real, sub whole⟩

theorem mem_beginnings_mul_left (begun : front ∈ beginnings first)
    [completable : Completable second] : front ∈ beginnings (first * second) := by
  obtain ⟨rest, real, whole⟩ := begun
  obtain ⟨more, realMore, phrase⟩ := completable.nil_mem
  refine ⟨rest ++ more, List.forall_mem_append.mpr ⟨real, realMore⟩, ?_⟩
  rw [← List.append_assoc]
  exact Language.append_mem_mul whole phrase

theorem mem_beginnings_mul_right (taken : phrase ∈ first) (begun : front ∈ beginnings second) :
    phrase ++ front ∈ beginnings (first * second) := by
  obtain ⟨rest, real, whole⟩ := begun
  refine ⟨rest, real, ?_⟩
  rw [List.append_assoc]
  exact Language.append_mem_mul taken whole

theorem Completable.mono [completable : Completable first] (sub : first ≤ second) :
    Completable second :=
  ⟨beginnings_mono sub completable.nil_mem⟩

instance [completable : Completable first] [Completable second] : Completable (first * second) :=
  ⟨mem_beginnings_mul_left completable.nil_mem⟩

instance [Completable first] : Completable (first + second) :=
  .mono (le_self_add : first ≤ first + second)

instance : Completable 1 :=
  ⟨mem_beginnings_of_mem Language.nil_mem_one⟩

theorem completable_token {kind : TokenKind} (real : kind ≠ .endOfInput) :
    Completable (token kind) :=
  ⟨[⟨kind, .nowhere⟩], by simpa using real, .nowhere, rfl⟩

instance (word : Keyword) : Completable (keyword word) :=
  completable_token (by simp)

instance (mark : Symbol) : Completable (symbol mark) :=
  completable_token (by simp)

theorem completable_iSup {phrases : α → Language Token} (a : α) [Completable (phrases a)] :
    Completable (⨆ a, phrases a) :=
  .mono (le_iSup phrases a)

def repeated (phrases : α → Language Token) : Language Token :=
  ⨆ items : List α, (items.map phrases).prod

theorem one_le_repeated (phrases : α → Language Token) : 1 ≤ repeated phrases :=
  le_iSup (fun items : List α => (items.map phrases).prod) []

theorem mul_repeated_le (phrases : α → Language Token) :
    (⨆ a, phrases a) * repeated phrases ≤ repeated phrases := by
  rw [Language.iSup_mul]
  refine iSup_le fun a => ?_
  rw [repeated, Language.mul_iSup]
  exact iSup_le fun items => le_iSup (fun items : List α => (items.map phrases).prod) (a :: items)

instance (phrases : α → Language Token) : Completable (repeated phrases) :=
  .mono (one_le_repeated phrases)

end Grammar

namespace TokenStream

/-- Two streams have the same tokens in front of a place, and the same kind of token there. -/
def Agrees (s t : TokenStream) (count : Nat) : Prop :=
  (∀ i < count, s.pending[i]? = t.pending[i]?) ∧ (s.drop count).kind = (t.drop count).kind

variable {s t : TokenStream}

theorem drop_drop (n m : Nat) : (s.drop n).drop m = s.drop (n + m) :=
  ext_pending List.drop_drop rfl rfl

theorem tail_eq_drop : s.tail = s.drop 1 :=
  ext_pending List.drop_one.symm rfl rfl

theorem kind_drop (n : Nat) :
    (s.drop n).kind = (s.pending[n]?.map Token.kind).getD .endOfInput := by
  unfold TokenStream.kind TokenStream.drop
  rw [List.head?_drop]

theorem location_drop (n : Nat) :
    (s.drop n).location = (s.pending[n]?.map Token.location).getD s.finish := by
  unfold TokenStream.location TokenStream.drop
  rw [List.head?_drop]

namespace Agrees

theorem left {n m : Nat} (agrees : s.Agrees t (n + m)) : s.Agrees t n := by
  refine ⟨fun i inside => agrees.1 i (by omega), ?_⟩
  cases m with
  | zero => exact agrees.2
  | succ m => rw [kind_drop, kind_drop, agrees.1 n (by omega)]

theorem right {n m : Nat} (agrees : s.Agrees t (n + m)) : (s.drop n).Agrees (t.drop n) m := by
  constructor
  · intro i inside
    unfold TokenStream.drop
    rw [List.getElem?_drop, List.getElem?_drop]
    exact agrees.1 _ (by omega)
  · rw [drop_drop, drop_drop]
    exact agrees.2

theorem of_take {count : Nat} (front : s.pending.take count = t.pending.take count)
    (kind : (s.drop count).kind = (t.drop count).kind) : s.Agrees t count := by
  refine ⟨fun i inside => ?_, kind⟩
  rw [← List.getElem?_take_of_lt inside, front, List.getElem?_take_of_lt inside]

theorem kind {count : Nat} (agrees : s.Agrees t count) : t.kind = s.kind :=
  (left (n := 0) (by rwa [Nat.zero_add])).2.symm

end Agrees

end TokenStream

namespace Parser

open TokenStream

/-- Where a parser stops: it gives a value, or it wants something else than the next token. -/
def Stops (parser : Parser α) (s : TokenStream) (count : Nat) : Except Expectation α → Prop
  | .ok a => parser s = .ok (a, s.drop count)
  | .error what => parser s = .error ⟨what, s.drop count⟩

def Taken (phrases : Language Token) (taken : List Token) : Except Expectation α → Prop
  | .ok _ => taken ∈ phrases
  | .error _ => taken ∈ beginnings phrases

/-- The first parser takes a phrase from `s`, or stops where it has begun one. The second one does
the same on `t` if the streams agree up to there. -/
def Tracks (phrases : Language Token) (first second : Parser α) (s t : TokenStream) : Prop :=
  ∃ count result, Stops first s count result ∧ (s.Agrees t count → Stops second t count result) ∧
    Taken phrases (s.pending.take count) result

namespace Tracks

variable {s t : TokenStream} {phrases others : Language Token} {first second : Parser α}
  {next nextToo : α → Parser β}

theorem mono (tracks : Tracks phrases first second s t) (sub : phrases ≤ others) :
    Tracks others first second s t := by
  obtain ⟨count, result, stops, same, taken⟩ := tracks
  refine ⟨count, result, stops, same, ?_⟩
  cases result with
  | ok a => exact sub taken
  | error what => exact beginnings_mono sub taken

theorem of_kind {like likeToo : Parser α} (here : first s = like s)
    (there : t.kind = s.kind → second t = likeToo t) (tracks : Tracks phrases like likeToo s t) :
    Tracks phrases first second s t := by
  obtain ⟨count, result, stops, same, taken⟩ := tracks
  refine ⟨count, result, ?_, fun agrees => ?_, taken⟩
  · cases result <;> exact here.trans stops
  · have stopsToo := same agrees
    cases result <;> exact (there agrees.kind).trans stopsToo

theorem pure (a : α) : Tracks 1 (pure a) (pure a) s t :=
  ⟨0, .ok a, rfl, fun _ => rfl, Language.nil_mem_one⟩

theorem fail (what : Expectation) [completable : Completable phrases] :
    Tracks phrases (fail what : Parser α) (Parser.fail what) s t :=
  ⟨0, .error what, rfl, fun _ => rfl, completable.nil_mem⟩

theorem after {count : Nat} {a : α} (stops : Stops first s count (.ok a))
    (same : s.Agrees t count → Stops second t count (.ok a))
    (taken : s.pending.take count ∈ phrases)
    (rest : Tracks others (next a) (nextToo a) (s.drop count) (t.drop count)) :
    Tracks (phrases * others) (first >>= next) (second >>= nextToo) s t := by
  obtain ⟨more, result, stopsRest, sameRest, takenRest⟩ := rest
  have run {parser : Parser α} {u : TokenStream} {following : α → Parser β}
      (early : Stops parser u count (.ok a))
      (late : Stops (following a) (u.drop count) more result) :
      Stops (parser >>= following) u (count + more) result := by
    have step : (parser >>= following) u = following a (u.drop count) := by
      change (parser u >>= fun result => following result.1 result.2) = _
      rw [show parser u = _ from early]
      rfl
    cases result <;> (rw [Stops, step, ← drop_drop]; exact late)
  refine ⟨count + more, result, run stops stopsRest,
    fun agrees => run (same agrees.left) (sameRest agrees.right), ?_⟩
  rw [List.take_add]
  cases result with
  | ok b => exact Language.append_mem_mul taken takenRest
  | error what => exact mem_beginnings_mul_right taken takenRest

theorem bind [Completable others] (early : Tracks phrases first second s t)
    (rest : ∀ a count, s.pending.take count ∈ phrases →
      Tracks others (next a) (nextToo a) (s.drop count) (t.drop count)) :
    Tracks (phrases * others) (first >>= next) (second >>= nextToo) s t := by
  obtain ⟨count, result, stops, same, taken⟩ := early
  cases result with
  | ok a => exact after stops same taken (rest a count taken)
  | error what =>
    have run {parser : Parser α} {u : TokenStream} {following : α → Parser β}
        (failed : Stops parser u count (.error what)) :
        Stops (parser >>= following) u count (.error what) := by
      change (parser u >>= fun result => following result.1 result.2) = _
      rw [show parser u = _ from failed]
      rfl
    exact ⟨count, .error what, run stops, fun agrees => run (same agrees),
      mem_beginnings_mul_left taken⟩

theorem map (f : α → β) (tracks : Tracks phrases first second s t) :
    Tracks phrases (first >>= fun a => Pure.pure (f a)) (second >>= fun a => Pure.pure (f a))
      s t := by
  rw [← mul_one phrases]
  exact bind tracks fun a _ _ => pure (f a)

theorem peek {decide decideToo : TokenKind → Parser α}
    (tracks : Tracks phrases (decide s.kind) (decideToo s.kind) s t) :
    Tracks phrases (peek >>= decide) (Parser.peek >>= decideToo) s t :=
  of_kind rfl (fun same => congrArg (decideToo · t) same) tracks

theorem take {token : Token} (here : s.pending.head? = some token) (member : [token] ∈ phrases)
    {following followingToo : Unit → Parser β}
    (rest : Tracks others (following ()) (followingToo ()) s.tail t.tail) :
    Tracks (phrases * others) (advance >>= following) (advance >>= followingToo) s t := by
  have step (u : TokenStream) : Stops advance u 1 (.ok ()) := by
    rw [Stops, ← tail_eq_drop]
    rfl
  rw [tail_eq_drop, tail_eq_drop] at rest
  refine after (step s) (fun _ => step t) ?_ rest
  rwa [List.take_one, here]

theorem takeKind {kind : TokenKind} (real : kind ≠ .endOfInput) (here : s.kind = kind)
    {following followingToo : Unit → Parser β}
    (rest : Tracks others (following ()) (followingToo ()) s.tail t.tail) :
    Tracks (token kind * others) (advance >>= following) (advance >>= followingToo) s t := by
  obtain ⟨token, there, rfl⟩ := (kind_eq_iff real).mp here
  exact take there (mem_token.mpr rfl) rest

theorem expect {kind : TokenKind} (real : kind ≠ .endOfInput) :
    Tracks (token kind) (expect kind) (Parser.expect kind) s t := by
  have := completable_token real
  refine peek ?_
  by_cases here : s.kind = kind
  · have taken : Tracks (token kind * 1) (advance >>= Pure.pure) (advance >>= Pure.pure) s t :=
      takeKind real here (pure ())
    rw [if_pos here, ← mul_one (token kind)]
    exact taken
  · rw [if_neg here]
    exact fail _

end Tracks

/-- A loop over phrases, with a bound on its turns, that ends in front of certain tokens. -/
structure Repeats (stops : TokenKind → Prop) (phrase : Parser α) (loop : Nat → Parser (List α)) :
    Prop where
  finished : stops .endOfInput
  never : loop 0 = pure []
  halts : ∀ limit u, stops u.kind → loop (limit + 1) u = (pure [] : Parser (List α)) u
  goes : ∀ limit u, ¬ stops u.kind → loop (limit + 1) u =
    (phrase >>= fun first => loop limit >>= fun rest => pure (first :: rest)) u

namespace Repeats

variable {s t : TokenStream} {stops : TokenKind → Prop} {phrase phraseToo : Parser α}
  {loop loopToo : Nat → Parser (List α)} {limit limitToo : Nat}

theorem eq_of_stops (repeats : Repeats stops phrase loop) (stopped : stops s.kind) :
    loop limit s = (pure [] : Parser (List α)) s := by
  cases limit with
  | zero => rw [repeats.never]
  | succ limit => exact repeats.halts limit s stopped

theorem eq_of_not_stops (repeats : Repeats stops phrase loop) (onward : ¬ stops s.kind)
    (short : s.pending.length ≤ limit) : loop limit s =
      (phrase >>= fun first => loop (limit - 1) >>= fun rest => pure (first :: rest)) s := by
  cases limit with
  | zero =>
    have nothing := kind_of_length_le_zero short
    exact absurd (nothing ▸ repeats.finished) onward
  | succ limit => exact repeats.goes limit s onward

theorem tracks {phrases : α → Language Token} {size sizeToo : Nat}
    (repeats : Repeats stops phrase loop) (repeatsToo : Repeats stops phraseToo loopToo)
    (nonempty : ∀ a, [] ∉ phrases a)
    (each : ∀ {s t : TokenStream}, ¬ stops s.kind → s.pending.length ≤ size →
      t.pending.length ≤ sizeToo → Tracks (⨆ a, phrases a) phrase phraseToo s t)
    (short : s.pending.length ≤ limit) (shortToo : t.pending.length ≤ limitToo)
    (small : s.pending.length ≤ size) (smallToo : t.pending.length ≤ sizeToo) :
    Tracks (repeated phrases) (loop limit) (loopToo limitToo) s t := by
  have halted {limit limitToo : Nat} {s t : TokenStream} (stopped : stops s.kind) :
      Tracks (repeated phrases) (loop limit) (loopToo limitToo) s t :=
    .of_kind (repeats.eq_of_stops stopped)
      (fun same => repeatsToo.eq_of_stops (same ▸ stopped))
      ((Tracks.pure []).mono (one_le_repeated phrases))
  induction limit generalizing limitToo s t with
  | zero =>
    have nothing := kind_of_length_le_zero short
    exact halted (nothing ▸ repeats.finished)
  | succ limit ih =>
    by_cases stopped : stops s.kind
    · exact halted stopped
    · refine .of_kind (repeats.eq_of_not_stops stopped short)
        (fun same => repeatsToo.eq_of_not_stops (same ▸ stopped) shortToo) ?_
      refine (Tracks.bind (each stopped small smallToo) fun a count taken => .map _ ?_).mono
        (mul_repeated_le phrases)
      -- a phrase has at least one token, so that there are turns for the rest
      have positive : 0 < count := by
        refine Nat.pos_of_ne_zero fun none => ?_
        obtain ⟨b, member⟩ := Language.mem_iSup.mp taken
        rw [none] at member
        exact nonempty b member
      apply ih
      all_goals
        rw [length_pending_drop]
        omega

end Repeats

section Separated

variable {phrase phraseToo : Parser α} {phrases : α → Language Token} {size sizeToo : Nat}
  {separator : TokenKind} {s t : TokenStream}

theorem repeats_separated (real : separator ≠ .endOfInput) (phrase : Parser α) :
    Repeats (· ≠ separator) (advance >>= fun _ => phrase) (separated separator phrase) where
  finished := real.symm
  never := rfl
  halts limit u other := by
    rw [separated, bind_peek, if_neg other]
  goes limit u here := by
    rw [separated, bind_peek, if_pos (not_not.mp here)]
    rfl

theorem mul_repeated_le_joined (separator : TokenKind) (phrases : α → Language Token) :
    (⨆ a, phrases a) * repeated (fun a => token separator * phrases a) ≤
      ⨆ items : List α, joined (token separator) (items.map phrases) := by
  rw [Language.iSup_mul]
  refine iSup_le fun first => ?_
  rw [repeated, Language.mul_iSup]
  refine iSup_le fun rest => ?_
  rw [← behindSeparators, ← joined_cons]
  exact le_iSup (fun items : List α => joined (token separator) (items.map phrases)) (first :: rest)

instance (mark : Symbol) (phrases : α → Language Token) [Completable (⨆ a, phrases a)] :
    Completable (⨆ items : List α, joined (Grammar.symbol mark) (items.map phrases)) :=
  .mono (mul_repeated_le_joined (.symbol mark) phrases)

theorem tracks_separated (real : separator ≠ .endOfInput)
    (each : ∀ {s t : TokenStream}, s.pending.length ≤ size → t.pending.length ≤ sizeToo →
      Tracks (⨆ a, phrases a) phrase phraseToo s t)
    (small : s.pending.length ≤ size) (smallToo : t.pending.length ≤ sizeToo) :
    Tracks (repeated fun a => token separator * phrases a) (separated separator phrase s.bound)
      (separated separator phraseToo t.bound) s t := by
  refine (repeats_separated real phrase).tracks (repeats_separated real phraseToo)
    (fun a nothing => ?_) (fun here small smallToo => ?_) s.length_le_bound t.length_le_bound
    small smallToo
  · obtain ⟨_, ⟨_, rfl⟩, _, _, whole⟩ := Language.mem_mul.mp nothing
    cases whole
  · rw [← Language.mul_iSup]
    refine .takeKind real (not_not.mp here) (each ?_ ?_)
    all_goals
      rw [length_pending_tail]
      omega

theorem tracks_sepBy1 (real : separator ≠ .endOfInput)
    (each : ∀ {s t : TokenStream}, s.pending.length ≤ size → t.pending.length ≤ sizeToo →
      Tracks (⨆ a, phrases a) phrase phraseToo s t)
    (small : s.pending.length ≤ size) (smallToo : t.pending.length ≤ sizeToo) :
    Tracks (⨆ items : List α, joined (token separator) (items.map phrases))
      (sepBy1 separator phrase) (sepBy1 separator phraseToo) s t := by
  refine (Tracks.bind (each small smallToo) fun a count _ => .of_kind rfl (fun _ => rfl)
    (.map _ (tracks_separated real each ?_ ?_))).mono (mul_repeated_le_joined separator phrases)
  all_goals
    rw [length_pending_drop]
    omega

end Separated

end Parser

end ScoringRules
