import ScoringRules.Toml.Text
import ScoringRules.Toml.Item

/-!
Numbers of TOML. An underscore may stand between two digits. Integers have 64 bits; a decimal
fraction that is too large for a double is no number.
-/

namespace ScoringRules.Toml

/-- One digit or more, with underscores only between digits; the underscores are left out. -/
def digits? (isDigit : Char → Bool) : List Char → Option (List Char × List Char)
  | [] => none
  | c :: '_' :: rest =>
    if isDigit c then do
      let (digits, rest) ← digits? isDigit rest
      return (c :: digits, rest)
    else none
  | c :: rest =>
    if !isDigit c then none
    else if (rest.head?.map isDigit).getD false then do
      let (digits, rest) ← digits? isDigit rest
      return (c :: digits, rest)
    else some ([c], rest)

/-- Decimal digits of an integer: a zero stands alone. -/
def integerDigits? : List Char → Option (List Char × List Char)
  | '0' :: rest => some (['0'], rest)
  | text => digits? Char.isDigit text

def valueOf (base : Nat) (digits : List Char) : Nat :=
  digits.foldl (fun n c => base * n + (hexDigit? c).getD 0) 0

def integerItem? (value : Int) : Option Item :=
  if Int64.minValue.toInt ≤ value ∧ value ≤ Int64.maxValue.toInt then
    some (.integer (Int64.ofInt value))
  else none

def based? (base : Nat) (isDigit : Char → Bool) (text : List Char) :
    Option (Item × List Char) := do
  let (digits, rest) ← digits? isDigit text
  return (← integerItem? (valueOf base digits), rest)

/-- The least number that doubles round to infinity. -/
def overflow : Nat := 1 <<< 1024 - 1 <<< 970

def overflows (mantissa : Nat) (scale : Int) : Bool :=
  let magnitude := scale + (Nat.toDigits 10 mantissa).length
  if mantissa = 0 ∨ magnitude < 300 then false
  else if 320 < magnitude then true
  else if 0 ≤ scale then overflow ≤ mantissa * Nat.pow 10 scale.toNat
  else overflow * Nat.pow 10 (-scale).toNat ≤ mantissa

def fraction? : List Char → Option (List Char × List Char)
  | '.' :: rest => digits? Char.isDigit rest
  | text => some ([], text)

def exponent? (text : List Char) : Option ((List Char × Int) × List Char) :=
  let signed (mark : Char) (rest : List Char) : Option ((List Char × Int) × List Char) :=
    match rest with
    | '-' :: rest => do
      let (digits, rest) ← digits? Char.isDigit rest
      return ((mark :: '-' :: digits, -valueOf 10 digits), rest)
    | '+' :: rest => do
      let (digits, rest) ← digits? Char.isDigit rest
      return ((mark :: '+' :: digits, valueOf 10 digits), rest)
    | rest => do
      let (digits, rest) ← digits? Char.isDigit rest
      return ((mark :: digits, valueOf 10 digits), rest)
  match text with
  | 'e' :: rest => signed 'e' rest
  | 'E' :: rest => signed 'E' rest
  | _ => some (([], 0), text)

def decimal? (sign : List Char) (text : List Char) : Option (Item × List Char) := do
  let (whole, afterWhole) ← integerDigits? text
  let (places, afterPlaces) ← fraction? afterWhole
  let ((exponent, power), rest) ← exponent? afterPlaces
  if places.isEmpty && exponent.isEmpty then
    let magnitude : Int := valueOf 10 whole
    return (← integerItem? (if sign = ['-'] then -magnitude else magnitude), rest)
  else if sign != ['-'] && overflows (valueOf 10 (whole ++ places)) (power - places.length) then
    none
  else
    let point := if places.isEmpty then [] else ['.']
    return (.float (String.ofList (sign ++ whole ++ point ++ places ++ exponent)), rest)

def signed? (sign : List Char) : List Char → Option (Item × List Char)
  | 'i' :: 'n' :: 'f' :: rest => some (.float (String.ofList (sign ++ ['i', 'n', 'f'])), rest)
  | 'n' :: 'a' :: 'n' :: rest => some (.float (String.ofList (sign ++ ['n', 'a', 'n'])), rest)
  | text => decimal? sign text

def number? : List Char → Option (Item × List Char)
  | '+' :: rest => signed? ['+'] rest
  | '-' :: rest => signed? ['-'] rest
  | '0' :: 'x' :: rest => based? 16 (fun c => (hexDigit? c).isSome) rest
  | '0' :: 'o' :: rest => based? 8 (fun c => '0' ≤ c && c ≤ '7') rest
  | '0' :: 'b' :: rest => based? 2 (fun c => c == '0' || c == '1') rest
  | text => signed? [] text

end ScoringRules.Toml
