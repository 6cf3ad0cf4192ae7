import ScoringRules.Proofs.Code.Compilation
import ScoringRules.Proofs.Code.Jumps
import ScoringRules.Proofs.CommandLine.Settings

/-!
What a command line that is accepted runs and prints. Settings and the file of inputs decide the
sets of variables; the runs are reported on one after the other, up to the first one that fails.
-/

namespace ScoringRules.CommandLine

def tableSets (lower : Bool) : Option InputFile → List Variables
  | none => []
  | some file => file.inputs.map (·.applyCase (file.lowercase || lower))

/-- The sets of variables that are asked for: the tables of the file, and then the variables that
are bound by arguments, if there are any or if there is nothing else to run or to show. -/
def requested (settings : List Setting) (file : Option InputFile) : List Variables :=
  let lower : Bool := Setting.lowercase ∈ settings
  let tables := tableSets lower file
  let bindings := settings.filterMap Setting.var?
  if bindings ≠ [] ∨ tables = [] ∧ Setting.dump ∉ settings then
    tables ++ [Variables.applyCase (.ofList bindings) lower]
  else tables

inductive Loads (read : String → Except FileError String) : Option String → Option InputFile → Prop
  | none : Loads read none none
  | file {path : String} {file : InputFile}
      (loaded : InputFile.ofContent path (read path) = .ok file) : Loads read (some path) (some file)

def heading (verbose : Bool) (number : Nat) : String :=
  if verbose then line ("# input " ++ toString number) else ""

def pages (verbose : Bool) (n : Nat) (reports : List Report) : String :=
  String.join ((reports.zipIdx n).map fun (report, number) =>
    heading verbose number ++ line report.toToml)

/-- The outcome of runs with sets of variables from number `n` on: a report on each, or reports on
those before the first that fails, and its error. -/
inductive Reports (engine : Engine) (verbose : Bool) (program : Code) (printed : String) (n : Nat) :
    List Variables → Outcome → Prop
  | all (reports : List Report)
      (finished : ∀ report ∈ reports,
        program.run engine.isMatch engine.budget report.input = .finished report.scores) :
      Reports engine verbose program printed n (reports.map Report.input)
        ⟨0, printed ++ pages verbose n reports, ""⟩
  | failure (reports : List Report)
      (finished : ∀ report ∈ reports,
        program.run engine.isMatch engine.budget report.input = .finished report.scores)
      {vars : Variables} {error : RuntimeError}
      (failed : program.run engine.isMatch engine.budget vars = .failed error)
      (rest : List Variables) :
      Reports engine verbose program printed n (reports.map Report.input ++ vars :: rest)
        ⟨1, printed ++ pages verbose n reports ++ heading verbose (n + reports.length),
          line ("Error in input " ++ toString (n + reports.length) ++ ": " ++ error.message)⟩

theorem pages_cons (verbose : Bool) (n : Nat) (report : Report) (reports : List Report) :
    pages verbose n (report :: reports) =
      heading verbose n ++ line report.toToml ++ pages verbose (n + 1) reports := by
  simp [pages]

section

variable {engine : Engine} {verbose : Bool} {program : Code}

theorem Reports.nil (printed : String) (n : Nat) :
    Reports engine verbose program printed n [] ⟨0, printed, ""⟩ := by
  have all : Reports engine verbose program printed n _ _ := .all [] nofun
  simpa [pages] using all

theorem Reports.first {vars : Variables} {error : RuntimeError}
    (failed : program.run engine.isMatch engine.budget vars = .failed error) (printed : String)
    (n : Nat) (rest : List Variables) :
    Reports engine verbose program printed n (vars :: rest)
      ⟨1, printed ++ heading verbose n,
        line ("Error in input " ++ toString n ++ ": " ++ error.message)⟩ := by
  have failure : Reports engine verbose program printed n _ _ := .failure [] nofun failed rest
  simpa [pages] using failure

theorem Reports.cons {printed : String} {n : Nat} {vars : Variables} {scores : Scores}
    (finished : program.run engine.isMatch engine.budget vars = .finished scores)
    {sets : List Variables} {outcome : Outcome}
    (reports : Reports engine verbose program
      (printed ++ heading verbose n ++ line (Report.mk vars scores).toToml) (n + 1) sets outcome) :
    Reports engine verbose program printed n (vars :: sets) outcome := by
  have page (reports : List Report) :
      printed ++ heading verbose n ++ line (Report.mk vars scores).toToml ++
          pages verbose (n + 1) reports =
        printed ++ pages verbose n (⟨vars, scores⟩ :: reports) := by
    rw [pages_cons, String.append_assoc, String.append_assoc, String.append_assoc]
  cases reports with
  | all reports others =>
    rw [page]
    exact .all (⟨vars, scores⟩ :: reports) (List.forall_mem_cons.mpr ⟨finished, others⟩)
  | failure reports others failed rest =>
    rw [page, Nat.succ_add_eq_add_succ]
    exact .failure (⟨vars, scores⟩ :: reports) (List.forall_mem_cons.mpr ⟨finished, others⟩) failed
      rest

theorem reports_runAll
    (complete : ∀ vars machine,
      program.run engine.isMatch engine.budget vars ≠ .unfinished machine)
    (printed : String) (n : Nat) (sets : List Variables) :
    Reports engine verbose program printed n sets
      (runAll engine verbose program printed n sets) := by
  induction sets generalizing printed n with
  | nil => exact .nil printed n
  | cons vars sets ih =>
    have head : (if verbose then printed ++ line ("# input " ++ toString n) else printed) =
        printed ++ heading verbose n := by
      cases verbose <;> simp [heading]
    unfold runAll
    rw [head]
    cases ran : program.run engine.isMatch engine.budget vars with
    | finished scores => exact .cons ran (ih _ _)
    | failed error => exact .first ran printed n sets
    | unfinished machine => exact absurd ran (complete vars machine)

theorem bindingSets_ofSettings (settings : List Setting) (file : Option InputFile) :
    bindingSets (.ofSettings settings) file = requested settings file := by
  have bound := OrderedMap.isEmpty_ofList (settings.filterMap Setting.var?)
  unfold requested
  dsimp only
  generalize whole : tableSets (decide (Setting.lowercase ∈ settings)) file = tables
  have same : bindingSets (.ofSettings settings) file =
      if !(OrderedMap.ofList (settings.filterMap Setting.var?)).isEmpty ||
          (tables.isEmpty && !decide (Setting.dump ∈ settings)) then
        tables ++ [Variables.applyCase (.ofList (settings.filterMap Setting.var?))
          (decide (Setting.lowercase ∈ settings))]
      else tables := by
    subst whole
    cases file <;> rfl
  rw [same]
  refine if_congr ?_ rfl rfl
  rw [Bool.or_eq_true, Bool.and_eq_true, Bool.not_eq_true', Bool.eq_false_iff, Ne, bound,
    List.isEmpty_iff]
  simp

theorem run_ne_unfinished_of_compile {accepts : String → Bool} {source : String}
    (compiled : Code.compile accepts source = .ok program) (isMatch : String → String → Bool)
    {budget : Nat} (enough : program.size < budget) (vars : Variables) (machine : Machine) :
    program.run isMatch budget vars ≠ .unfinished machine := by
  obtain ⟨tokens, rules, -, generated⟩ := Code.reads_of_compile compiled
  rw [Code.run_eq_ending]
  exact Code.ending_ne_unfinished_of_generate generated enough machine

section

variable {read : String → Except FileError String} {options : Options} {source : String}
  (there : read options.rulesFile = .ok source)
  (compiled : Code.compile engine.accepts source = .ok program)

include there compiled

theorem execute_of_loads {file : Option InputFile} (loads : Loads read options.inputsFile file) :
    execute (m := Id) engine read options =
      runAll engine options.verbose program (preamble options program) 1
        (bindingSets options file) := by
  unfold execute
  generalize options.inputsFile = asked at loads
  cases loads with
  | none => simp [there, compiled, bind, pure]
  | file loaded => simp [there, compiled, loaded, bind, pure]

theorem execute_of_error {path : String} {error : InputFile.LoadError}
    (asked : options.inputsFile = some path)
    (unloaded : InputFile.ofContent path (read path) = .error error) :
    execute (m := Id) engine read options =
      .failure (preamble options program) ("Error: " ++ error.message) := by
  unfold execute
  simp [there, compiled, asked, unloaded, bind, pure]

end

end

/-- Accepted arguments are the words of settings. A variable that they bind has the place of its
first binding and the value of its last one. If the last file of inputs that they name cannot be
loaded, nothing runs; otherwise the requested sets of variables do, one after the other, up to the
first that fails. What is to be said about the program stands in front. -/
theorem run_of_accepted (engine : Engine) (read : String → Except FileError String)
    (program : String) {arguments : List String}
    (accepted : ∃ options, parseAll arguments = .ok options) :
    (∃ settings, Accepted settings ∧ settings.flatMap Setting.words = arguments) ∧
    ∀ settings, Accepted settings → settings.flatMap Setting.words = arguments →
      let options := Options.ofSettings settings
      options.vars.keys = ((settings.filterMap Setting.var?).map Prod.fst).eraseDups ∧
      (∀ name, options.vars.get? name =
        ((settings.filterMap Setting.var?).filter fun binding => binding.1 = name).getLast?.map
          Prod.snd) ∧
      ∀ source code, read options.rulesFile = .ok source →
        Code.compile engine.accepts source = .ok code → code.size < engine.budget →
        let printed :=
          (if options.verbose then
            line ("Compiled " ++ options.rulesFile ++ " to " ++ toString code.size ++
              " instructions")
          else "") ++ if options.dump then code.table else ""
        (∀ path error, options.inputsFile = some path →
          InputFile.ofContent path (read path) = .error error →
          run (m := Id) engine read program arguments =
            ⟨1, printed, line ("Error: " ++ error.message)⟩) ∧
        ∀ file, Loads read options.inputsFile file →
          Reports engine options.verbose code printed 1 (requested settings file)
            (run (m := Id) engine read program arguments) := by
  constructor
  · obtain ⟨options, parsed⟩ := accepted
    obtain ⟨settings, accepted, words, -⟩ := parseAll_eq_ok_iff.mp parsed
    exact ⟨settings, accepted, words⟩
  intro settings accepted words options
  have parsed : parseAll arguments = .ok options :=
    parseAll_eq_ok_iff.mpr ⟨settings, accepted, words, rfl⟩
  refine ⟨OrderedMap.keys_ofList _, OrderedMap.get?_ofList _, ?_⟩
  intro source code there compiled enough printed
  unfold run
  rw [parsed]
  refine ⟨fun path error asked unloaded => execute_of_error there compiled asked unloaded,
    fun file loads => ?_⟩
  dsimp only
  rw [execute_of_loads there compiled loads, ← bindingSets_ofSettings]
  exact reports_runAll (run_ne_unfinished_of_compile compiled engine.isMatch enough) printed 1 _

theorem run_of_accepted_lastOnes :
    let read : String → Except FileError String := fun path =>
      if path = "r" then .ok "score(n) = 1"
      else if path = "i" then .ok "[[input]]\nt = \"A\"\n"
      else .error .notFound
    let engine : Engine := ⟨fun _ => true, fun _ _ => false, 3⟩
    let code : Code := #[.change .setScore "n" (.int 1), .plain .noop]
    Code.compile (fun _ => true) "score(n) = 1" = .ok code ∧
      Reports engine true code "Compiled r to 2 instructions\n" 1
        [.ofList [("t", "a")], .ofList [("t", "c")]]
        (run (m := Id) engine read "scorecard" ["", "--var", "t=B", "r", "-v", "--inputs", "x",
          "--inputs", "i", "--lowercase", "--var", "t=C"]) := by
  intro read engine code
  have compiled : Code.compile (fun _ => true) "score(n) = 1" = .ok code := by decide +kernel
  let settings : List Setting := [.rules "", .var "t" "B", .rules "r", .verbose false,
    .inputs "x", .inputs "i", .lowercase, .var "t" "C"]
  have accepted : Accepted settings :=
    ⟨by simp [settings, Setting.Proper], 1, "r", by decide, rfl⟩
  have parsed := parseAll_eq_ok_iff.mpr ⟨settings, accepted, rfl, rfl⟩
  have loads : Loads read (some "i") (some ⟨false, [.ofList [("t", "A")]]⟩) := by
    have table : InputFile.ofString? "[[input]]\nt = \"A\"\n" =
        some ⟨false, [.ofList [("t", "A")]]⟩ := by cbv
    refine .file ?_
    change InputFile.ofContent "i" (.ok "[[input]]\nt = \"A\"\n") = _
    unfold InputFile.ofContent
    dsimp only
    rw [table]
  have introduction : line ("Compiled " ++ "r" ++ " to " ++ toString 2 ++ " instructions") ++ "" =
      "Compiled r to 2 instructions\n" := rfl
  have sets : requested settings (some ⟨false, [.ofList [("t", "A")]]⟩) =
      [.ofList [("t", "a")], .ofList [("t", "c")]] := by cbv
  obtain ⟨-, runs⟩ := run_of_accepted engine read "scorecard" ⟨_, parsed⟩
  obtain ⟨-, -, runs⟩ := runs settings accepted rfl
  obtain ⟨-, reports⟩ := runs "score(n) = 1" code rfl compiled (by decide)
  rw [← introduction, ← sets]
  exact ⟨compiled, reports _ loads⟩

end ScoringRules.CommandLine
