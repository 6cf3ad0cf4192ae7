import ScoringRules.Code.Table
import ScoringRules.Files.Reading
import ScoringRules.InputFile
import ScoringRules.Machine.Run
import ScoringRules.Program
import ScoringRules.Report

/-!
The command line: it compiles a file of rules and reports on a run for each set of variables.
Files are read through a function, so that everything else is pure.
-/

namespace ScoringRules

namespace InputFile

inductive LoadError where
  | unreadable (path : String) (reason : FileError)
  | malformed
  deriving DecidableEq, Repr

namespace LoadError

/-- The wording; that of a malformed file leaves the reason open. -/
def message : LoadError → String
  | unreadable path reason => "IO error: " ++ path ++ ": " ++ reason.message
  | malformed => "Invalid input file: "

end LoadError

def ofContent (path : String) (content : Except FileError String) : Except LoadError InputFile :=
  match content with
  | .error reason => .error (.unreadable path reason)
  | .ok text =>
    match ofString? text with
    | some file => .ok file
    | none => .error .malformed

end InputFile

/-- Splits `name=value` at the first equals sign; the name must not be empty. -/
def binding? (argument : String) : Option (String × String) :=
  let chars := argument.toList
  match chars.dropWhile (· != '=') with
  | '=' :: value =>
    let name := chars.takeWhile (· != '=')
    if name.isEmpty then none else some (String.ofList name, String.ofList value)
  | _ => none

def bindingMessage (argument : String) : String :=
  "Invalid binding '" ++ argument ++ "', expected name=value"

namespace CommandLine

structure Options where
  rulesFile : String
  inputsFile : Option String
  vars : Variables
  lowercase : Bool
  dump : Bool
  verbose : Bool
  deriving DecidableEq

namespace Options

def default : Options := ⟨"", none, ∅, false, false, false⟩

end Options

inductive Stop where
  | help
  | noArguments
  | noInputsFile
  | noBinding
  | invalidBinding (argument : String)
  | unknownOption (argument : String)
  | secondRulesFile
  | noRulesFile
  deriving DecidableEq, Repr

namespace Stop

def message? : Stop → Option String
  | help => none
  | noArguments => none
  | noInputsFile => some "Error: --inputs requires a filename"
  | noBinding => some "Error: --var requires name=value"
  | invalidBinding argument => some ("Error: " ++ bindingMessage argument)
  | unknownOption argument => some ("Error: Unknown option '" ++ argument ++ "'")
  | secondRulesFile => some "Error: Multiple rule files specified"
  | noRulesFile => some "Error: No rule file specified"

def showsUsage : Stop → Bool
  | help | noArguments | unknownOption _ | noRulesFile => true
  | _ => false

def code : Stop → UInt8
  | help => 0
  | _ => 1

end Stop

/-- Takes the arguments in turn. An empty one names no file of rules. -/
def parse (options : Options) : List String → Except Stop Options
  | [] => if options.rulesFile.isEmpty then .error .noRulesFile else .ok options
  | "--inputs" :: rest =>
    match rest with
    | path :: rest => parse { options with inputsFile := some path } rest
    | [] => .error .noInputsFile
  | "--var" :: rest =>
    match rest with
    | argument :: rest =>
      match binding? argument with
      | some (name, value) =>
        parse { options with vars := options.vars.insert name value } rest
      | none => .error (.invalidBinding argument)
    | [] => .error .noBinding
  | "--lowercase" :: rest => parse { options with lowercase := true } rest
  | "--dump" :: rest => parse { options with dump := true } rest
  | "-v" :: rest => parse { options with verbose := true } rest
  | "--verbose" :: rest => parse { options with verbose := true } rest
  | "-h" :: _ => .error .help
  | "--help" :: _ => .error .help
  | argument :: rest =>
    if argument.startsWith "-" then .error (.unknownOption argument)
    else if options.rulesFile.isEmpty then parse { options with rulesFile := argument } rest
    else .error .secondRulesFile

def parseAll (arguments : List String) : Except Stop Options :=
  if arguments.isEmpty then .error .noArguments else parse .default arguments

def line (text : String) : String := text ++ "\n"

def usage (program : String) : String :=
  String.join <| List.map line <|
    ["Usage: " ++ program ++ " [options] <rules-file>",
      "",
      "Options:",
      "  --inputs <file.toml>   Run every [[input]] table in the file",
      "  --var <name=value>     Bind a variable (repeatable)",
      "  --lowercase            Lowercase all bound values",
      "  --dump                 Print the compiled instruction table",
      "  -v, --verbose          Verbose output",
      "  -h, --help             Show this help message",
      "",
      "Set RUST_LOG=debug or RUST_LOG=trace to follow compilation and execution.",
      "",
      "Examples:",
      "  " ++ program ++ " classify.rules --inputs articles.toml    # Score a batch of articles",
      "  " ++ program ++ " classify.rules --var title=\"Cricket\"     # Score one ad-hoc input",
      "  " ++ program ++ " classify.rules --dump                    # Show compiled instructions"]

structure Outcome where
  code : UInt8
  stdout : String
  stderr : String
  deriving DecidableEq, Repr

namespace Outcome

def failure (stdout error : String) : Outcome := ⟨1, stdout, line error⟩

end Outcome

def Stop.outcome (program : String) (stop : Stop) : Outcome where
  code := stop.code
  stdout := if stop.showsUsage then usage program else ""
  stderr := (stop.message?.map line).getD ""

structure Engine where
  accepts : String → Bool
  isMatch : String → String → Bool
  budget : Nat

/-- The sets of variables to run with. Without any, there is one empty run, unless the program is
only shown. -/
def bindingSets (options : Options) (file : Option InputFile) : List Variables :=
  let fromFile :=
    match file with
    | some file => { file with lowercase := file.lowercase || options.lowercase }.bindings
    | none => []
  if !options.vars.isEmpty || (fromFile.isEmpty && !options.dump) then
    fromFile ++ [options.vars.applyCase options.lowercase]
  else fromFile

/-- Runs a program with one set of variables after another, from number `n` on, and stops at the
first failure. -/
def runAll (engine : Engine) (verbose : Bool) (program : Code) (printed : String) :
    (n : Nat) → List Variables → Outcome
  | _, [] => ⟨0, printed, ""⟩
  | n, vars :: rest =>
    let printed :=
      if verbose then printed ++ line ("# input " ++ toString n) else printed
    match program.run engine.isMatch engine.budget vars with
    | .finished scores =>
      runAll engine verbose program (printed ++ line (Report.mk vars scores).toToml) (n + 1)
        rest
    | .failed error =>
      .failure printed ("Error in input " ++ toString n ++ ": " ++ error.message)
    | .unfinished _ => .failure printed ("Error in input " ++ toString n ++ ": no end in sight")

def preamble (options : Options) (program : Code) : String :=
  (if options.verbose then
    line ("Compiled " ++ options.rulesFile ++ " to " ++ toString program.size ++ " instructions")
  else "") ++ if options.dump then program.table else ""

def execute [Monad m] (engine : Engine) (read : String → m (Except FileError String))
    (options : Options) : m Outcome := do
  match ← read options.rulesFile with
  | .error error =>
    return .failure "" ("Error reading '" ++ options.rulesFile ++ "': " ++ error.message)
  | .ok source =>
    match Code.compile engine.accepts source with
    | .error error => return .failure "" ("Compilation error: " ++ error.message)
    | .ok program =>
      let printed := preamble options program
      match options.inputsFile with
      | none => return runAll engine options.verbose program printed 1 (bindingSets options none)
      | some path =>
        match InputFile.ofContent path (← read path) with
        | .error error => return .failure printed ("Error: " ++ error.message)
        | .ok file =>
          return runAll engine options.verbose program printed 1 (bindingSets options (some file))

def run [Monad m] (engine : Engine) (read : String → m (Except FileError String))
    (program : String) (arguments : List String) : m Outcome :=
  match parseAll arguments with
  | .error stop => return stop.outcome program
  | .ok options => execute engine read options

end CommandLine

end ScoringRules
