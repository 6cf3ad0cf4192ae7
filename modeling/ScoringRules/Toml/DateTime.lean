import ScoringRules.Toml.Number

/-!
Dates and times of TOML, with or without an offset. They are kept in their canonical spelling.
-/

namespace ScoringRules.Toml

def fixedDigits? (count least most : Nat) (text : List Char) : Option (Nat × List Char) :=
  let digits := text.take count
  let value := valueOf 10 digits
  if digits.length = count ∧ digits.all Char.isDigit ∧ least ≤ value ∧ value ≤ most then
    some (value, text.drop count)
  else none

def expectChar? (c : Char) : List Char → Option (List Char)
  | d :: rest => if d = c then some rest else none
  | [] => none

def padded (count n : Nat) : List Char :=
  let digits := Nat.toDigits 10 n
  List.replicate (count - digits.length) '0' ++ digits

def daysInMonth (year month : Nat) : Nat :=
  if month = 2 then if year % 4 = 0 ∧ (year % 100 ≠ 0 ∨ year % 400 = 0) then 29 else 28
  else if month = 4 ∨ month = 6 ∨ month = 9 ∨ month = 11 then 30
  else 31

def date? (text : List Char) : Option (List Char × List Char) := do
  let (year, text) ← fixedDigits? 4 0 9999 text
  let text ← expectChar? '-' text
  let (month, text) ← fixedDigits? 2 1 12 text
  let text ← expectChar? '-' text
  let (day, text) ← fixedDigits? 2 1 (daysInMonth year month) text
  return (padded 4 year ++ ['-'] ++ padded 2 month ++ ['-'] ++ padded 2 day, text)

/-- Fractions of a second, cut to nanoseconds and without zeros at the end. -/
def secondFraction (text : List Char) : List Char × List Char :=
  match text with
  | '.' :: rest =>
    let digits := rest.takeWhile Char.isDigit
    let significant := ((digits.take 9).reverse.dropWhile (· == '0')).reverse
    if digits.isEmpty then ([], text)
    else (if significant.isEmpty then [] else '.' :: significant, rest.drop digits.length)
  | _ => ([], text)

/-- A time; the last second may be a leap second. -/
def time? (text : List Char) : Option (List Char × List Char) := do
  let (hour, text) ← fixedDigits? 2 0 23 text
  let text ← expectChar? ':' text
  let (minute, text) ← fixedDigits? 2 0 59 text
  let text ← expectChar? ':' text
  let (second, text) ← fixedDigits? 2 0 60 text
  let (fraction, text) := secondFraction text
  return (padded 2 hour ++ [':'] ++ padded 2 minute ++ [':'] ++ padded 2 second ++ fraction, text)

/-- An offset from universal time, if there is one; that of no minutes is a plus. -/
def offset (text : List Char) : List Char × List Char :=
  let numeric (sign : Char) (rest : List Char) : Option (List Char × List Char) := do
    let (hour, rest) ← fixedDigits? 2 0 23 rest
    let rest ← expectChar? ':' rest
    let (minute, rest) ← fixedDigits? 2 0 59 rest
    let sign := if hour = 0 ∧ minute = 0 then '+' else sign
    return ([sign] ++ padded 2 hour ++ [':'] ++ padded 2 minute, rest)
  match text with
  | 'Z' :: rest => (['Z'], rest)
  | 'z' :: rest => (['Z'], rest)
  | '+' :: rest => (numeric '+' rest).getD ([], text)
  | '-' :: rest => (numeric '-' rest).getD ([], text)
  | _ => ([], text)

def timeOfDay (text : List Char) : List Char × List Char :=
  match text with
  | c :: rest =>
    if c = 'T' ∨ c = 't' ∨ c = ' ' then
      match time? rest with
      | some (time, rest) =>
        let (offset, rest) := offset rest
        ('T' :: time ++ offset, rest)
      | none => ([], text)
    else ([], text)
  | [] => ([], text)

def dateTime? (text : List Char) : Option (Item × List Char) :=
  match date? text with
  | some (date, rest) =>
    let (time, rest) := timeOfDay rest
    some (.dateTime (String.ofList (date ++ time)), rest)
  | none => do
    let (time, rest) ← time? text
    return (.dateTime (String.ofList time), rest)

end ScoringRules.Toml
