/-!
Maps that remember the order in which their keys were first written. A later write to a key
changes its value and leaves its place.
-/

namespace ScoringRules

def upsert [DecidableEq κ] (key : κ) (value : ν) : List (κ × ν) → List (κ × ν)
  | [] => [(key, value)]
  | entry :: rest => if entry.1 = key then (key, value) :: rest else entry :: upsert key value rest

def valueAt? [DecidableEq κ] (key : κ) : List (κ × ν) → Option ν
  | [] => none
  | entry :: rest => if entry.1 = key then some entry.2 else valueAt? key rest

theorem valueAt?_upsert [DecidableEq κ] (key : κ) (value : ν) (other : κ)
    (entries : List (κ × ν)) :
    valueAt? other (upsert key value entries) =
      if other = key then some value else valueAt? other entries := by
  induction entries with
  | nil => simp [upsert, valueAt?, eq_comm]
  | cons entry rest ih => grind [upsert, valueAt?]

theorem upsert_upsert [DecidableEq κ] (key : κ) (first second : ν) (entries : List (κ × ν)) :
    upsert key second (upsert key first entries) = upsert key second entries := by
  induction entries with
  | nil => simp [upsert]
  | cons entry rest ih => by_cases same : entry.1 = key <;> simp [upsert, same, ih]

theorem valueAt?_eq_some_iff [DecidableEq κ] {key : κ} {value : ν} {entries : List (κ × ν)}
    (distinct : (entries.map Prod.fst).Nodup) :
    valueAt? key entries = some value ↔ (key, value) ∈ entries := by
  induction entries with
  | nil => simp [valueAt?]
  | cons entry rest ih =>
    obtain ⟨first, bound⟩ := entry
    rw [List.map_cons, List.nodup_cons] at distinct
    by_cases same : first = key
    · subst same
      have elsewhere : (first, value) ∉ rest := fun member =>
        distinct.1 (List.mem_map.mpr ⟨_, member, rfl⟩)
      simp [valueAt?, elsewhere, eq_comm]
    · simp [valueAt?, same, ih distinct.2, Ne.symm same]

theorem map_fst_upsert [DecidableEq κ] (key : κ) (value : ν) (entries : List (κ × ν)) :
    (upsert key value entries).map Prod.fst =
      if key ∈ entries.map Prod.fst then entries.map Prod.fst
      else entries.map Prod.fst ++ [key] := by
  induction entries with
  | nil => simp [upsert]
  | cons entry rest ih =>
    by_cases same : entry.1 = key
    · simp [upsert, same]
    · have different : ¬ key = entry.1 := fun h => same h.symm
      simp only [upsert, same, if_false, List.map_cons, ih, List.mem_cons, different, false_or]
      split <;> simp

theorem nodup_map_fst_upsert [DecidableEq κ] (key : κ) (value : ν) {entries : List (κ × ν)}
    (distinct : (entries.map Prod.fst).Nodup) :
    ((upsert key value entries).map Prod.fst).Nodup := by
  rw [map_fst_upsert]
  split
  · exact distinct
  · rename_i absent
    rw [List.nodup_append]
    exact ⟨distinct, by simp, fun a ha b hb => by
      rw [List.mem_singleton] at hb
      subst hb
      exact fun same => absent (same ▸ ha)⟩

/-- Entries with distinct keys, in the order of the keys' first writes. -/
structure OrderedMap (κ : Type u) (ν : Type v) where
  entries : List (κ × ν)
  distinct : (entries.map Prod.fst).Nodup

namespace OrderedMap

def empty : OrderedMap κ ν := ⟨[], by simp⟩

instance : EmptyCollection (OrderedMap κ ν) := ⟨empty⟩

instance : Inhabited (OrderedMap κ ν) := ⟨empty⟩

theorem ext_entries {a b : OrderedMap κ ν} (same : a.entries = b.entries) : a = b := by
  cases a
  cases b
  cases same
  rfl

instance [DecidableEq κ] [DecidableEq ν] : DecidableEq (OrderedMap κ ν) := fun a b =>
  decidable_of_iff (a.entries = b.entries) ⟨ext_entries, fun h => h ▸ rfl⟩

def keys (map : OrderedMap κ ν) : List κ :=
  map.entries.map Prod.fst

def size (map : OrderedMap κ ν) : Nat :=
  map.entries.length

def isEmpty (map : OrderedMap κ ν) : Bool :=
  map.entries.isEmpty

def mapValues (f : ν → ω) (map : OrderedMap κ ν) : OrderedMap κ ω where
  entries := map.entries.map fun entry => (entry.1, f entry.2)
  distinct := by simpa [Function.comp_def] using map.distinct

variable [DecidableEq κ]

def get? (map : OrderedMap κ ν) (key : κ) : Option ν :=
  valueAt? key map.entries

def getD (map : OrderedMap κ ν) (key : κ) (default : ν) : ν :=
  (map.get? key).getD default

def contains (map : OrderedMap κ ν) (key : κ) : Bool :=
  (map.get? key).isSome

/-- Writes a value; a new key comes last, a known one keeps its place. -/
def insert (map : OrderedMap κ ν) (key : κ) (value : ν) : OrderedMap κ ν :=
  ⟨upsert key value map.entries, nodup_map_fst_upsert key value map.distinct⟩

def ofList (writes : List (κ × ν)) : OrderedMap κ ν :=
  writes.foldl (fun map entry => map.insert entry.1 entry.2) empty

@[simp] theorem get?_insert (map : OrderedMap κ ν) (key : κ) (value : ν) (other : κ) :
    (map.insert key value).get? other = if other = key then some value else map.get? other :=
  valueAt?_upsert key value other map.entries

theorem get?_eq_some_iff (map : OrderedMap κ ν) (key : κ) (value : ν) :
    map.get? key = some value ↔ (key, value) ∈ map.entries :=
  valueAt?_eq_some_iff map.distinct

theorem insert_insert (map : OrderedMap κ ν) (key : κ) (first second : ν) :
    (map.insert key first).insert key second = map.insert key second :=
  ext_entries (upsert_upsert key first second map.entries)

theorem keys_insert (map : OrderedMap κ ν) (key : κ) (value : ν) :
    (map.insert key value).keys = if key ∈ map.keys then map.keys else map.keys ++ [key] :=
  map_fst_upsert key value map.entries

end OrderedMap

end ScoringRules
