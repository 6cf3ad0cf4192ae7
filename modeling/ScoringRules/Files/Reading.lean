/-!
Reading text from files: what can go wrong, and in which words.
-/

namespace ScoringRules

inductive FileError where
  | notFound
  | isDirectory
  | notDirectory
  | nameTooLong
  | nulInName
  | invalidText
  /-- Any other failure, in the words of the system. -/
  | other (reason : String)
  deriving DecidableEq, Repr

namespace FileError

def message : FileError → String
  | notFound => "No such file or directory (os error 2)"
  | isDirectory => "Is a directory (os error 21)"
  | notDirectory => "Not a directory (os error 20)"
  | nameTooLong => "File name too long (os error 36)"
  | nulInName => "file name contained an unexpected NUL byte"
  | invalidText => "stream did not contain valid UTF-8"
  | other reason => reason

end FileError

def textOfBytes (bytes : ByteArray) : Except FileError String :=
  match String.fromUTF8? bytes with
  | some text => .ok text
  | none => .error .invalidText

inductive ReadStep where
  | bytes (content : ByteArray)
  | interrupted
  | failed (reason : String)

namespace ReadStep

def collect : List ReadStep → Except String ByteArray
  | [] => .ok .empty
  | bytes content :: rest => do return content ++ (← collect rest)
  | interrupted :: rest => collect rest
  | failed reason :: _ => .error reason

/-- The text that the steps read. That a read fails counts before the text is looked at. -/
def text (steps : List ReadStep) : Except String String := do
  let bytes ← collect steps
  (textOfBytes bytes).mapError FileError.message

end ReadStep

end ScoringRules
