import ScoringRules.CommandLine
import ScoringRules.Pattern.Basic

/-!
The program itself: it reads files from the disk and prints.
-/

namespace ScoringRules

def FileError.ofSystem : IO.Error → FileError
  | .noFileOrDirectory _ _ _ => .notFound
  | .inappropriateType _ code _ => if code.toInt32.abs = 21 then .isDirectory else .notDirectory
  | .permissionDenied _ _ _ => .other "Permission denied (os error 13)"
  | error => .other (toString error)

def readText (path : String) : IO (Except FileError String) := do
  try
    return textOfBytes (← IO.FS.readBinFile path)
  catch error => return .error (.ofSystem error)

/-- More instructions than any run executes. -/
def longestRun : Nat := 1 <<< 62

def engine : CommandLine.Engine := ⟨Pattern.accepts, Pattern.isMatch, longestRun⟩

end ScoringRules

def main (arguments : List String) : IO UInt32 := do
  let outcome ←
    ScoringRules.CommandLine.run ScoringRules.engine ScoringRules.readText "scorecard" arguments
  IO.print outcome.stdout
  IO.eprint outcome.stderr
  return outcome.code.toUInt32
