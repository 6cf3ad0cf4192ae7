/-!
Places in a source text. A location counts the characters before a place, and its line and
column from one; only a line feed starts a new line.
-/

namespace ScoringRules

structure Location where
  position : Nat
  line : Nat
  column : Nat
  deriving DecidableEq, Repr

namespace Location

def start : Location := ⟨0, 1, 1⟩

/-- A place in no text, where an empty list of tokens ends. -/
def nowhere : Location := ⟨0, 0, 0⟩

def step (place : Location) (c : Char) : Location :=
  if c = '\n' then ⟨place.position + 1, place.line + 1, 1⟩
  else ⟨place.position + 1, place.line, place.column + 1⟩

def after (place : Location) (text : List Char) : Location :=
  text.foldl step place

@[simp] theorem after_nil (place : Location) : place.after [] = place := rfl

@[simp] theorem after_cons (place : Location) (c : Char) (text : List Char) :
    place.after (c :: text) = (place.step c).after text := rfl

theorem after_append (place : Location) (a b : List Char) :
    place.after (a ++ b) = (place.after a).after b :=
  List.foldl_append

@[simp] theorem position_step (place : Location) (c : Char) :
    (place.step c).position = place.position + 1 := by
  unfold step
  split <;> rfl

@[simp] theorem position_after (place : Location) (text : List Char) :
    (place.after text).position = place.position + text.length := by
  induction text generalizing place with
  | nil => rfl
  | cons c text ih =>
    rw [after_cons, ih, position_step, List.length_cons]
    omega

def text (place : Location) : String :=
  "line " ++ toString place.line ++ ", column " ++ toString place.column

end Location

end ScoringRules
