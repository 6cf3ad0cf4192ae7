import ScoringRules.Data.OrderedMap
import ScoringRules.Proofs.Toml.Number
import ScoringRules.Proofs.Toml.Text

/-!
Documents read line by line. A header begins a table, and a line with the form of a key and of a
value adds an entry to it; what is left to read is shorter each time.
-/

namespace ScoringRules.Toml

section Keys

theorem keyPart?_bare {name : List Char} {stop : Char} (nonempty : name ≠ [])
    (bare : ∀ c ∈ name, isBareChar c = true) (stops : isBareChar stop = false) (rest : List Char) :
    keyPart? (name ++ stop :: rest) = some (String.ofList name, stop :: rest) := by
  have taken : (name ++ stop :: rest).takeWhile isBareChar = name := by
    rw [List.takeWhile_append_of_pos bare, List.takeWhile_cons_of_neg (by simp [stops]),
      List.append_nil]
  have first {quote : Char} {behind : List Char} (notBare : isBareChar quote = false)
      (same : name ++ stop :: rest = quote :: behind) : False := by
    obtain ⟨c, more, rfl⟩ := List.exists_cons_of_ne_nil nonempty
    have start := bare c List.mem_cons_self
    rw [(List.cons.inj same).1, notBare] at start
    cases start
  rw [keyPart?]
  · simp only [taken, List.isEmpty_iff, nonempty, if_false, List.drop_left]
  · exact fun _ => first (by decide)
  · exact fun _ => first (by decide)

theorem keyPart?_basicForm (text rest : List Char) :
    keyPart? (basicForm text ++ rest) = some (String.ofList text, rest) := by
  rw [basicForm_append, keyPart?, basicString?_flatMap]
  rfl

theorem keyPart?_literalForm {text : List Char}
    (inside : ∀ c ∈ text, isPlain c = true ∧ c ≠ '\'') (rest : List Char) :
    keyPart? (literalForm text ++ rest) = some (String.ofList text, rest) := by
  rw [literalForm_append, keyPart?, literalString?_append inside]
  rfl

inductive IsKeyForm (text : List Char) : List Char → Prop where
  | bare (nonempty : text ≠ []) (chars : ∀ c ∈ text, isBareChar c = true) : IsKeyForm text text
  | basic : IsKeyForm text (basicForm text)
  | literal (inside : ∀ c ∈ text, isPlain c = true ∧ c ≠ '\'') : IsKeyForm text (literalForm text)

theorem isKeyForm_keyForm (key : String) : IsKeyForm key.toList (keyForm key) := by
  unfold keyForm
  dsimp only
  split
  · rename_i bare
    simp only [Bool.and_eq_true, Bool.not_eq_true', List.isEmpty_eq_false_iff,
      List.all_eq_true] at bare
    exact .bare bare.1 bare.2
  split
  · exact .basic
  split
  · rename_i literal
    simp only [Bool.and_eq_true, Bool.not_eq_true', List.contains_eq_mem,
      decide_eq_false_iff_not, List.any_eq_false] at literal
    refine .literal fun c member => ⟨?_, fun quote => literal.2 (quote ▸ member)⟩
    simpa [isControl] using literal.1 c member
  · exact .basic

namespace IsKeyForm

variable {text form : List Char}

theorem keyPart?_append (shown : IsKeyForm text form) (rest : List Char) :
    keyPart? (form ++ ' ' :: rest) = some (String.ofList text, ' ' :: rest) := by
  cases shown with
  | bare nonempty chars => exact keyPart?_bare nonempty chars (by decide) rest
  | basic => exact keyPart?_basicForm text _
  | literal inside => exact keyPart?_literalForm inside _

theorem exists_cons (shown : IsKeyForm text form) : ∃ c rest, form = c :: rest ∧
    (isBareChar c = true ∨ c = '"' ∨ c = '\'') := by
  cases shown with
  | bare nonempty chars =>
    obtain ⟨c, rest, rfl⟩ := List.exists_cons_of_ne_nil nonempty
    exact ⟨c, rest, rfl, .inl (chars c List.mem_cons_self)⟩
  | basic => exact ⟨_, _, rfl, .inr (.inl rfl)⟩
  | literal => exact ⟨_, _, rfl, .inr (.inr rfl)⟩

end IsKeyForm

end Keys

section Values

/-- What is written for a value is read as the value, up to the end of the line. -/
def Writes (form : List Char) (item : Item) : Prop :=
  ∀ rest, value? depthLimit (skipBlanks (form ++ '\n' :: rest)) = some (item, '\n' :: rest)

theorem isBlankChar_of_start {c : Char} (start : isBareChar c = true ∨ c = '"' ∨ c = '\'') :
    isBlankChar c = false := by
  rw [isBlankChar, Bool.or_eq_false_iff, beq_eq_false_iff_ne, beq_eq_false_iff_ne]
  constructor <;> rintro rfl <;> exact absurd start (by decide)

theorem skipBlanks_cons {c : Char} (dark : isBlankChar c = false) (s : List Char) :
    skipBlanks (c :: s) = c :: s :=
  List.dropWhile_cons_of_neg (by simp [dark])

theorem value?_quote {c : Char} (quote : c = '"' ∨ c = '\'') (s : List Char) :
    value? depthLimit (c :: s) = do
      let (text, rest) ← string? (c :: s)
      return (.string (String.ofList text), rest) := by
  rcases quote with rfl | rfl <;> rfl

theorem value?_number {c : Char} (number : c.isDigit = true ∨ c = '-') (s : List Char) :
    value? depthLimit (c :: s) = (dateTime? (c :: s) <|> number? (c :: s)) := by
  have other {d : Char} (strange : ¬ (d.isDigit = true ∨ d = '-')) : c ≠ d :=
    fun same => strange (same ▸ number)
  rw [value?, if_neg (not_or.mpr ⟨other (by decide), other (by decide)⟩)]
  · exact other (by decide)
  · exact other (by decide)
  · exact fun _ same => absurd same (other (by decide))
  · exact fun _ same => absurd same (other (by decide))

theorem exists_integerForm (value : Int64) :
    ∃ c rest, integerForm value = c :: rest ∧ (c.isDigit = true ∨ c = '-') := by
  rw [integerForm]
  obtain ⟨n, ⟨shape, -⟩ | ⟨shape, -⟩⟩ := toList_toString_int value.toInt
  · obtain ⟨c, rest, digits⟩ := List.exists_cons_of_ne_nil (toList_toString_ne_nil n)
    have digit := isDigit_of_mem_toString (digits ▸ List.mem_cons_self)
    exact ⟨c, rest, shape.trans digits, .inl digit⟩
  · exact ⟨'-', _, shape, .inr rfl⟩

theorem writes_stringForm (value : String) : Writes (stringForm value) (.string value) := by
  intro rest
  have shown := isStringForm_stringForm value
  have read := shown.string?_append rest
  obtain ⟨c, more, shape, quote⟩ := shown.exists_cons
  rw [shape, List.cons_append] at read ⊢
  rw [skipBlanks_cons (isBlankChar_of_start (.inr quote)), value?_quote quote, read]
  simp

theorem writes_integerForm (value : Int64) : Writes (integerForm value) (.integer value) := by
  intro rest
  obtain ⟨noDate, read⟩ := number?_integerForm value rest
  obtain ⟨c, more, shape, number⟩ := exists_integerForm value
  have bare : isBareChar c = true := by
    rw [isBareChar]
    rcases number with digit | rfl
    · simp [Char.isAlphanum, digit]
    · rfl
  rw [shape, List.cons_append] at noDate read ⊢
  rw [skipBlanks_cons (isBlankChar_of_start (.inl bare)), value?_number number, noDate, read]
  rfl

end Values

section Lines

theorem key?_keyForm (limit : Nat) (key : String) (rest : List Char) :
    key? (limit + 1) (keyForm key ++ ' ' :: '=' :: rest) = some ([key], '=' :: rest) := by
  obtain ⟨c, more, shape, start⟩ := (isKeyForm_keyForm key).exists_cons
  have front : skipBlanks (keyForm key ++ ' ' :: '=' :: rest) =
      keyForm key ++ ' ' :: '=' :: rest := by
    rw [shape]
    exact skipBlanks_cons (isBlankChar_of_start start) _
  rw [key?, front, (isKeyForm_keyForm key).keyPart?_append, String.ofList_toList]
  rfl

theorem keyValue?_of_parts {read : List Char → Option (Item × List Char)}
    {text rest behind : List Char} {key : List String} {item : Item}
    (named : key? depthLimit text = some (key, '=' :: rest))
    (valued : read (skipBlanks rest) = some (item, behind)) :
    keyValue? read text = some ((key, item), skipBlanks behind) := by
  simp [keyValue?, named, expectChar?, valued]

theorem keyValue?_entryLine {form : List Char} {item : Item} (writes : Writes form item)
    (key : String) (rest : List Char) :
    keyValue? (value? depthLimit) (entryLine key form ++ rest) =
      some (([key], item), '\n' :: rest) := by
  have shape : entryLine key form ++ rest =
      keyForm key ++ ' ' :: '=' :: ' ' :: (form ++ '\n' :: rest) := by simp [entryLine]
  rw [shape]
  exact keyValue?_of_parts (key?_keyForm _ key (' ' :: (form ++ '\n' :: rest))) (writes rest)

theorem entries?_entryLine {form : List Char} {item : Item} (writes : Writes form item)
    (key : String) (limit : Nat) (root : Table) (header : List String) (rest : List Char) :
    entries? (limit + 1) root header (entryLine key form ++ rest) =
      (root.change? (·.addDotted? [] key item) header).bind
        fun root => entries? limit root header rest := by
  have line := keyValue?_entryLine writes key rest
  obtain ⟨c, more, shape, start⟩ := (isKeyForm_keyForm key).exists_cons
  have other {d : Char} (strange : ¬ (isBareChar d = true ∨ d = '"' ∨ d = '\'')) : c ≠ d :=
    fun same => strange (same ▸ start)
  have text : entryLine key form ++ rest =
      c :: (more ++ ' ' :: '=' :: ' ' :: (form ++ '\n' :: rest)) := by simp [entryLine, shape]
  rw [text] at line ⊢
  rw [entries?, skipBlanks_cons (isBlankChar_of_start start)]
  split
  case h_1 same => cases same
  case h_2 same => exact absurd (List.cons.inj same).1 (other (by decide))
  case h_3 same => exact absurd (List.cons.inj same).1 (other (by decide))
  case h_4 same => exact absurd (List.cons.inj same).1 (other (by decide))
  case h_5 =>
    rw [lineBreak?_cons (other (by decide)) (other (by decide)), line]
    rfl

theorem entries?_lineFeed (limit : Nat) (root : Table) (header : List String)
    (rest : List Char) :
    entries? (limit + 1) root header ('\n' :: rest) = entries? limit root header rest :=
  rfl

theorem key?_bare {name : List Char} (nonempty : name ≠ [])
    (bare : ∀ c ∈ name, isBareChar c = true) (limit : Nat) (rest : List Char) :
    key? (limit + 1) (name ++ ']' :: rest) = some ([String.ofList name], ']' :: rest) := by
  have part := keyPart?_bare nonempty bare (by decide : isBareChar ']' = false) rest
  obtain ⟨c, more, rfl⟩ := List.exists_cons_of_ne_nil nonempty
  have start := bare c List.mem_cons_self
  rw [List.cons_append] at part ⊢
  rw [key?, skipBlanks_cons (isBlankChar_of_start (.inl start)), part]
  rfl

theorem entries?_header {name : List Char} (nonempty : name ≠ [])
    (bare : ∀ c ∈ name, isBareChar c = true) (limit : Nat) (root : Table) (header : List String)
    (rest : List Char) :
    entries? (limit + 1) root header ('[' :: (name ++ ']' :: '\n' :: rest)) =
      (root.begin? (String.ofList name)).bind
        fun root => entries? limit root [String.ofList name] rest := by
  rw [entries?, skipBlanks_cons (by decide)]
  split
  case h_1 same => cases same
  case h_2 same => exact absurd (List.cons.inj same).1 (by decide)
  case h_3 same =>
    obtain ⟨c, more, rfl⟩ := List.exists_cons_of_ne_nil nonempty
    have bracket := (List.cons.inj (List.cons.inj same).2).1
    exact absurd (bare c List.mem_cons_self) (bracket ▸ by decide)
  case h_4 same =>
    obtain ⟨-, rfl⟩ := List.cons.inj same
    rw [depthLimit, key?_bare nonempty bare]
    rfl
  case h_5 other => exact (other _ rfl).elim

end Lines

section Places

/-- A place in a document: the tables read so far, the header in force, and what is left. -/
structure Place where
  root : Table
  header : List String
  text : List Char

def Place.read? (limit : Nat) (place : Place) : Option Table :=
  entries? limit place.root place.header place.text

/-- Reading gets from one place to the other, and whatever limit was enough still is. -/
def Place.Leads (place next : Place) : Prop :=
  ∀ limit, place.text.length < limit →
    ∃ fewer, next.text.length < fewer ∧ place.read? limit = next.read? fewer

theorem Place.Leads.refl (place : Place) : place.Leads place :=
  fun limit enough => ⟨limit, enough, rfl⟩

theorem Place.Leads.trans {a b c : Place} (first : a.Leads b) (second : b.Leads c) : a.Leads c := by
  intro limit enough
  obtain ⟨fewer, still, same⟩ := first limit enough
  obtain ⟨least, last, again⟩ := second fewer still
  exact ⟨least, last, same.trans again⟩

theorem Place.leads_of_step {place next : Place} (shorter : next.text.length < place.text.length)
    (step : ∀ limit, place.read? (limit + 1) = next.read? limit) : place.Leads next := by
  intro limit enough
  obtain ⟨fewer, rfl⟩ := Nat.exists_eq_succ_of_ne_zero (Nat.ne_zero_of_lt enough)
  exact ⟨fewer, by omega, step fewer⟩

theorem Place.leads_lineFeed (root : Table) (header : List String) (text : List Char) :
    Leads ⟨root, header, '\n' :: text⟩ ⟨root, header, text⟩ :=
  leads_of_step (Nat.lt_succ_self _) fun limit => entries?_lineFeed limit root header text

theorem Place.Leads.read?_eq {place : Place} {root : Table} {header : List String}
    (leads : place.Leads ⟨root, header, []⟩) :
    place.read? (place.text.length + 1) = some root := by
  obtain ⟨fewer, enough, same⟩ := leads _ (Nat.lt_succ_self _)
  obtain ⟨least, rfl⟩ := Nat.exists_eq_succ_of_ne_zero (Nat.ne_zero_of_lt enough)
  exact same

section Tables

variable {front : Table} {name : String} (fresh : front.find? name = none)

include fresh

theorem find?_concat (item : Item) : Table.find? (front ++ [(name, item)]) name = some item := by
  rw [Table.find?, List.lookup_append]
  change (front.find? name).or _ = _
  rw [fresh]
  simp

theorem put_concat (item other : Item) :
    Table.put (front ++ [(name, item)]) name other = front ++ [(name, other)] := by
  induction front with
  | nil => simp [Table.put]
  | cons entry front ih =>
    rw [Table.find?, List.lookup_cons] at fresh
    split at fresh
    · cases fresh
    · rename_i different
      have apart : (entry.1 == name) = false := Bool.beq_comm.trans different
      rw [List.cons_append, Table.put, apart, ih fresh]
      rfl

theorem change?_concat {entries : Table} {key : String} (absent : entries.find? key = none)
    (item : Item) :
    Table.change? (·.addDotted? [] key item) (front ++ [(name, .table .header entries)]) [name] =
      some (front ++ [(name, .table .header (entries ++ [(key, item)]))]) := by
  rw [Table.change?, find?_concat fresh]
  simp [Table.change?, Table.addDotted?, Table.addNew?, absent, put_concat fresh]

end Tables

theorem find?_eq_none {table : Table} {key : String} (absent : key ∉ table.map Prod.fst) :
    table.find? key = none := by
  rw [Table.find?, List.lookup_eq_none_iff]
  intro entry member
  rw [bne_iff_ne]
  rintro rfl
  exact absent (List.mem_map_of_mem member)

section Entries

variable {ν : Type} {form : ν → List Char} {item : ν → Item}
  (writes : ∀ value, Writes (form value) (item value)) {front : Table} {name : String}
  (fresh : front.find? name = none)

include writes fresh

theorem Place.leads_entries {entries : List (String × ν)} {others : Table}
    (distinct : (others.map Prod.fst ++ entries.map Prod.fst).Nodup) (rest : List Char) :
    Leads
      ⟨front ++ [(name, .table .header others)], [name],
        (entries.map fun entry => entryLine entry.1 (form entry.2)).flatten ++ rest⟩
      ⟨front ++ [(name, .table .header
        (others ++ entries.map fun entry => (entry.1, item entry.2)))], [name], rest⟩ := by
  induction entries generalizing others with
  | nil => simpa using Leads.refl _
  | cons entry entries ih =>
    have absent : entry.1 ∉ others.map Prod.fst := by
      intro member
      exact (List.nodup_append.mp distinct).2.2 _ member _ List.mem_cons_self rfl
    have distinctToo : ((others ++ [(entry.1, item entry.2)]).map Prod.fst ++
        entries.map Prod.fst).Nodup := by
      rwa [List.map_append, List.append_assoc]
    have behind := ih distinctToo
    rw [List.append_assoc] at behind
    refine (leads_of_step ?_ fun limit => ?_).trans behind
    · simp [entryLine]
      omega
    · change entries? (limit + 1) _ _ _ = _
      rw [List.map_cons, List.flatten_cons, List.append_assoc,
        entries?_entryLine (writes entry.2), change?_concat fresh (find?_eq_none absent)]
      rfl

theorem Place.leads_tableForm (nonempty : name ≠ "") (bare : ∀ c ∈ name.toList, isBareChar c = true)
    (header : List String) (map : OrderedMap String ν) (rest : List Char) :
    Leads
      ⟨front, header, tableForm name
        (map.entries.map fun entry => entryLine entry.1 (form entry.2)) ++ rest⟩
      ⟨front ++ [(name, .table .header (map.entries.map fun entry => (entry.1, item entry.2)))],
        [name], rest⟩ := by
  have begun : front.begin? name = some (front ++ [(name, .table .header [])]) := by
    rw [Table.begin?, fresh]
  have distinct : (([] : Table).map Prod.fst ++ map.entries.map Prod.fst).Nodup := map.distinct
  have behind := leads_entries writes fresh distinct rest
  refine (leads_of_step ?_ fun limit => ?_).trans behind
  · simp [tableForm]
    omega
  · have shape (lines : List (List Char)) : tableForm name lines ++ rest =
        '[' :: (name.toList ++ ']' :: '\n' :: (lines.flatten ++ rest)) := by simp [tableForm]
    change entries? (limit + 1) _ _ _ = _
    rw [shape, entries?_header (by simpa using nonempty) bare, String.ofList_toList, begun]
    rfl

end Entries

end Places

end ScoringRules.Toml
