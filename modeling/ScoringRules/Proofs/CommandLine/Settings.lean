import Mathlib.Data.List.TakeWhile
import ScoringRules.CommandLine
import ScoringRules.Proofs.Data.General
import ScoringRules.Proofs.Data.OrderedMap

/-!
What arguments ask for. Arguments are accepted if and only if they are the words of settings, one of
which names the file of rules, and the settings then decide the options: of two files of inputs or
of two values of a variable the last one counts, and everything else holds if it is asked for at
all.
-/

namespace ScoringRules

theorem binding?_eq_some_iff {argument name value : String} :
    binding? argument = some (name, value) ↔
      argument = name ++ "=" ++ value ∧ name ≠ "" ∧ '=' ∉ name.toList := by
  constructor
  · intro bound
    unfold binding? at bound
    dsimp only at bound
    split at bound
    · rename_i rest found
      split at bound
      · cases bound
      · rename_i nonempty
        obtain ⟨rfl, rfl⟩ := Prod.mk.inj (Option.some.inj bound)
        refine ⟨?_, ?_, ?_⟩
        · rw [← String.toList_inj]
          have whole := List.takeWhile_append_dropWhile (p := (· != '=')) (l := argument.toList)
          simpa [found] using whole.symm
        · intro blank
          rw [← String.toList_inj, String.toList_ofList] at blank
          exact nonempty (List.isEmpty_iff.mpr blank)
        · intro member
          rw [String.toList_ofList] at member
          simpa using List.mem_takeWhile_imp member
    · cases bound
  · rintro ⟨rfl, nonempty, absent⟩
    have inside : ∀ c ∈ name.toList, (c != '=') = true := by
      intro c member
      rw [bne_iff_ne]
      rintro rfl
      exact absent member
    have shape : (name ++ "=" ++ value).toList = name.toList ++ '=' :: value.toList := by simp
    have stops : ∀ c ∈ ('=' :: value.toList).head?, (c != '=') = false := by simp
    unfold binding?
    dsimp only
    rw [shape, takeWhile_append_of_stop inside stops, dropWhile_append_of_stop inside stops]
    simp [nonempty]

theorem startsWith_dash_iff {text : String} :
    text.startsWith "-" = true ↔ text.toList.head? = some '-' := by
  rw [String.startsWith_string_iff, List.head?_eq_some_iff]
  exact ⟨fun ⟨behind, shape⟩ => ⟨behind, shape.symm⟩, fun ⟨behind, shape⟩ => ⟨behind, shape.symm⟩⟩

namespace CommandLine

inductive Setting where
  | inputs (path : String)
  | var (name value : String)
  | lowercase
  | dump
  | verbose (long : Bool)
  | rules (path : String)
  deriving DecidableEq

namespace Setting

def words : Setting → List String
  | inputs path => ["--inputs", path]
  | var name value => ["--var", name ++ "=" ++ value]
  | lowercase => ["--lowercase"]
  | dump => ["--dump"]
  | verbose long => [if long then "--verbose" else "-v"]
  | rules path => [path]

/-- The name of a variable ends at the equals sign, and a file of rules is not named like an
option. -/
def Proper : Setting → Prop
  | var name _ => name ≠ "" ∧ '=' ∉ name.toList
  | rules path => path.toList.head? ≠ some '-'
  | _ => True

def inputs? : Setting → Option String
  | inputs path => some path
  | _ => none

def var? : Setting → Option (String × String)
  | var name value => some (name, value)
  | _ => none

def rules? : Setting → Option String
  | rules path => some path
  | _ => none

def isVerbose : Setting → Bool
  | verbose _ => true
  | _ => false

end Setting

/-- Behind empty paths, which name no file and are passed over, comes one that names a file, and it
is the last. -/
def NamesLast (paths : List String) : Prop :=
  ∃ blanks path, path ≠ "" ∧ paths = List.replicate blanks "" ++ [path]

/-- The words of these settings are a command line: nothing in them can be taken for something else,
and just one file of rules is named. -/
structure Accepted (settings : List Setting) : Prop where
  proper : ∀ setting ∈ settings, setting.Proper
  named : NamesLast (settings.filterMap Setting.rules?)

namespace Options

def apply (options : Options) : Setting → Options
  | .inputs path => { options with inputsFile := some path }
  | .var name value => { options with vars := options.vars.insert name value }
  | .lowercase => { options with lowercase := true }
  | .dump => { options with dump := true }
  | .verbose _ => { options with verbose := true }
  | .rules path => { options with rulesFile := path }

def ofSettings (settings : List Setting) : Options where
  rulesFile := (settings.filterMap Setting.rules?).getLast?.getD ""
  inputsFile := (settings.filterMap Setting.inputs?).getLast?
  vars := .ofList (settings.filterMap Setting.var?)
  lowercase := decide (.lowercase ∈ settings)
  dump := decide (.dump ∈ settings)
  verbose := settings.any Setting.isVerbose

theorem rulesFile_apply (options : Options) (setting : Setting) :
    (options.apply setting).rulesFile = setting.rules?.getD options.rulesFile := by
  cases setting <;> rfl

theorem ofSettings_concat (settings : List Setting) (setting : Setting) :
    ofSettings (settings ++ [setting]) = (ofSettings settings).apply setting := by
  cases setting <;>
    simp [ofSettings, apply, List.filterMap_cons, Setting.rules?, Setting.inputs?, Setting.var?,
      Setting.isVerbose, OrderedMap.ofList_concat]

theorem foldl_apply (settings : List Setting) :
    settings.foldl apply default = ofSettings settings := by
  induction settings using List.reverseRecOn with
  | nil => rfl
  | append_singleton settings setting ih =>
    rw [List.foldl_concat, ih, ofSettings_concat]

end Options

theorem not_namesLast_nil : ¬ NamesLast [] := by
  rintro ⟨blanks, path, -, shape⟩
  simp at shape

theorem namesLast_blank_iff {paths : List String} : NamesLast ("" :: paths) ↔ NamesLast paths := by
  constructor
  · rintro ⟨blanks, path, named, shape⟩
    cases blanks with
    | zero => exact absurd (List.cons.inj shape).1.symm named
    | succ blanks => exact ⟨blanks, path, named, (List.cons.inj shape).2⟩
  · rintro ⟨blanks, path, named, rfl⟩
    exact ⟨blanks + 1, path, named, rfl⟩

theorem namesLast_cons_iff {path : String} (named : path ≠ "") {paths : List String} :
    NamesLast (path :: paths) ↔ paths = [] := by
  constructor
  · rintro ⟨blanks, last, -, shape⟩
    cases blanks with
    | zero => exact (List.cons.inj shape).2
    | succ blanks => exact absurd (List.cons.inj shape).1 named
  · rintro rfl
    exact ⟨0, path, named, rfl⟩

theorem parse_rules {path : String} (proper : path.toList.head? ≠ some '-') {options : Options}
    (room : options.rulesFile = "") (rest : List String) :
    parse options (path :: rest) = parse { options with rulesFile := path } rest := by
  have plain : ¬ path.startsWith "-" = true := mt startsWith_dash_iff.mp proper
  rw [parse]
  · simp [plain, room]
  -- What is left is that the argument is none of the options, all of which start with a dash.
  all_goals
    rintro rfl
    exact proper (by rfl)

theorem parse_words {setting : Setting} (proper : setting.Proper) {options : Options}
    (room : ∀ path, setting.rules? = some path → options.rulesFile = "") (rest : List String) :
    parse options (setting.words ++ rest) = parse (options.apply setting) rest := by
  cases setting with
  | inputs path => rfl
  | var name value =>
    have bound : binding? (name ++ "=" ++ value) = some (name, value) :=
      binding?_eq_some_iff.mpr ⟨rfl, proper⟩
    change parse options ("--var" :: (name ++ "=" ++ value) :: rest) = _
    rw [parse, bound]
    rfl
  | lowercase => rfl
  | dump => rfl
  | verbose long => cases long <;> rfl
  | rules path => exact parse_rules proper (room path rfl) rest

theorem namesLast_apply_iff {options : Options} {setting : Setting} {paths : List String} :
    NamesLast (options.rulesFile :: (setting.rules?.toList ++ paths)) ↔
      (∀ path, setting.rules? = some path → options.rulesFile = "") ∧
        NamesLast ((options.apply setting).rulesFile :: paths) := by
  rw [Options.rulesFile_apply]
  cases setting.rules? with
  | none => simp
  | some path =>
    by_cases blank : options.rulesFile = ""
    · simp [blank, namesLast_blank_iff]
    · simp [blank, namesLast_cons_iff blank]

theorem filterMap_rules?_cons (setting : Setting) (settings : List Setting) :
    (setting :: settings).filterMap Setting.rules? =
      setting.rules?.toList ++ settings.filterMap Setting.rules? := by
  rw [List.filterMap_cons]
  cases setting.rules? <;> rfl

/-- The arguments are the words of settings that turn the options into the result. -/
def Asks (options : Options) (arguments : List String) (result : Options) : Prop :=
  ∃ settings : List Setting, settings.flatMap Setting.words = arguments ∧
    (∀ setting ∈ settings, setting.Proper) ∧
    NamesLast (options.rulesFile :: settings.filterMap Setting.rules?) ∧
    settings.foldl Options.apply options = result

section

variable {options result : Options} {arguments : List String}

theorem Asks.nil (named : options.rulesFile ≠ "") : Asks options [] options :=
  ⟨[], rfl, nofun, (namesLast_cons_iff named).mpr rfl, rfl⟩

theorem Asks.cons (setting : Setting) (proper : setting.Proper)
    (room : ∀ path, setting.rules? = some path → options.rulesFile = "")
    (asks : Asks (options.apply setting) arguments result) :
    Asks options (setting.words ++ arguments) result := by
  obtain ⟨settings, rfl, properRest, named, rfl⟩ := asks
  refine ⟨setting :: settings, rfl, List.forall_mem_cons.mpr ⟨proper, properRest⟩, ?_, rfl⟩
  rw [filterMap_rules?_cons]
  exact namesLast_apply_iff.mpr ⟨room, named⟩

theorem parse_of_asks (asks : Asks options arguments result) :
    parse options arguments = .ok result := by
  obtain ⟨settings, rfl, proper, named, rfl⟩ := asks
  induction settings generalizing options with
  | nil =>
    have given : options.rulesFile ≠ "" := by
      intro blank
      rw [blank, namesLast_blank_iff] at named
      exact not_namesLast_nil named
    simp [parse, given]
  | cons setting settings ih =>
    obtain ⟨proper, properRest⟩ := List.forall_mem_cons.mp proper
    rw [filterMap_rules?_cons, namesLast_apply_iff] at named
    rw [List.flatMap_cons, parse_words proper named.1, ih properRest named.2, List.foldl_cons]

theorem asks_of_parse (parsed : parse options arguments = .ok result) :
    Asks options arguments result := by
  fun_induction parse options arguments with
  | case2 options named =>
    obtain rfl := Except.ok.inj parsed
    exact .nil (by simpa using named)
  | case3 options path rest ih => exact .cons (.inputs path) trivial nofun (ih parsed)
  | case5 options argument rest name value bound ih =>
    obtain ⟨rfl, proper⟩ := binding?_eq_some_iff.mp bound
    exact .cons (.var name value) proper nofun (ih parsed)
  | case8 options rest ih => exact .cons .lowercase trivial nofun (ih parsed)
  | case9 options rest ih => exact .cons .dump trivial nofun (ih parsed)
  | case10 options rest ih => exact .cons (.verbose false) trivial nofun (ih parsed)
  | case11 options rest ih => exact .cons (.verbose true) trivial nofun (ih parsed)
  | case15 options path rest _ _ _ _ _ _ _ _ plain blank ih =>
    exact .cons (.rules path) (mt startsWith_dash_iff.mpr plain)
      (fun _ _ => by simpa using blank) (ih parsed)
  -- Everything else is refused.
  | _ => cases parsed

theorem parseAll_eq_ok_iff_asks :
    parseAll arguments = .ok result ↔ Asks .default arguments result := by
  cases arguments with
  | nil =>
    refine iff_of_false nofun fun asks => ?_
    have refused := parse_of_asks asks
    simp [parse, Options.default] at refused
  | cons argument arguments => exact ⟨asks_of_parse, parse_of_asks⟩

/-- Arguments are accepted if and only if they are the words of settings that make a command line,
and the settings tell the options. -/
theorem parseAll_eq_ok_iff :
    parseAll arguments = .ok result ↔ ∃ settings, Accepted settings ∧
      settings.flatMap Setting.words = arguments ∧ Options.ofSettings settings = result := by
  rw [parseAll_eq_ok_iff_asks]
  constructor
  · rintro ⟨settings, words, proper, named, led⟩
    exact ⟨settings, ⟨proper, namesLast_blank_iff.mp named⟩, words,
      (Options.foldl_apply settings).symm.trans led⟩
  · rintro ⟨settings, ⟨proper, named⟩, words, told⟩
    exact ⟨settings, words, proper, namesLast_blank_iff.mpr named,
      (Options.foldl_apply settings).trans told⟩

end

theorem Options.ofSettings_eq_of_perm {settings others : List Setting}
    (rearranged : settings.Perm others)
    (rules : settings.filterMap Setting.rules? = others.filterMap Setting.rules?)
    (vars : settings.filterMap Setting.var? = others.filterMap Setting.var?)
    (inputs : settings.filterMap Setting.inputs? = others.filterMap Setting.inputs?) :
    ofSettings settings = ofSettings others := by
  unfold ofSettings
  rw [rules, vars, inputs, rearranged.any_eq]
  simp only [rearranged.mem_iff]

/-- Settings can be given in any order in which the variables follow one another as before, and so
do the files of inputs. -/
theorem run_eq_of_perm [Monad m] (engine : Engine) (read : String → m (Except FileError String))
    (program : String) {settings others : List Setting}
    (proper : ∀ setting ∈ settings, setting.Proper) {path : String}
    (single : settings.filterMap Setting.rules? = [path]) (named : path ≠ "")
    (rearranged : settings.Perm others)
    (vars : settings.filterMap Setting.var? = others.filterMap Setting.var?)
    (inputs : settings.filterMap Setting.inputs? = others.filterMap Setting.inputs?) :
    run engine read program (settings.flatMap Setting.words) =
      run engine read program (others.flatMap Setting.words) := by
  have singleToo : others.filterMap Setting.rules? = [path] :=
    List.perm_singleton.mp (single ▸ (rearranged.filterMap Setting.rules?).symm)
  have accepted : Accepted settings := ⟨proper, 0, path, named, single⟩
  have acceptedToo : Accepted others :=
    ⟨fun setting member => proper setting (rearranged.mem_iff.mpr member), 0, path, named,
      singleToo⟩
  have parsed := parseAll_eq_ok_iff.mpr ⟨settings, accepted, rfl, rfl⟩
  have parsedToo := parseAll_eq_ok_iff.mpr ⟨others, acceptedToo, rfl, rfl⟩
  unfold run
  rw [parsed, parsedToo, Options.ofSettings_eq_of_perm rearranged (single.trans singleToo.symm)
    vars inputs]

theorem run_eq_of_perm_valuesLikeOptions :
    let settings : List Setting := [.inputs "--dump", .var "-v" "1", .rules "a.rules",
      .verbose true, .var "-v" "=2", .lowercase]
    let others : List Setting := [.lowercase, .var "-v" "1", .verbose true, .var "-v" "=2",
      .inputs "--dump", .rules "a.rules"]
    settings.Perm others ∧
      settings.flatMap Setting.words = ["--inputs", "--dump", "--var", "-v=1", "a.rules",
        "--verbose", "--var", "-v==2", "--lowercase"] ∧
      run (m := Id) ⟨fun _ => true, fun _ _ => false, 9⟩ (fun _ => .ok "score(n) = 1") "scorecard"
          (settings.flatMap Setting.words) =
        run (m := Id) ⟨fun _ => true, fun _ _ => false, 9⟩ (fun _ => .ok "score(n) = 1") "scorecard"
          (others.flatMap Setting.words) := by
  intro settings others
  have proper : ∀ setting ∈ settings, setting.Proper := by simp [settings, Setting.Proper]
  have single : settings.filterMap Setting.rules? = ["a.rules"] := rfl
  have rearranged : settings.Perm others := by decide
  exact ⟨rearranged, rfl, run_eq_of_perm _ _ _ proper single (by decide) rearranged rfl rfl⟩

end CommandLine

end ScoringRules
