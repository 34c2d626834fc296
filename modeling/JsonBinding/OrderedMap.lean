/-!
Maps that keep their keys in the order in which each was first written. Writing a key again changes
its value and leaves its place. The main statements say what a write does to the keys
(`keys_insert`) and to the lookups (`find?_insert_self`, `find?_insert_of_ne`).
-/
namespace JsonBinding

/-- A finite map whose entries stand in the order in which their keys were first written. -/
structure OrderedMap (κ α : Type) where
  entries : List (κ × α)
  nodup : (entries.map Prod.fst).Nodup := by simp
  deriving DecidableEq, Repr

variable {κ α : Type} [DecidableEq κ]

/-- Replaces the value of a key where it stands, or appends the key with its value. -/
def putEntry (key : κ) (value : α) : List (κ × α) → List (κ × α)
  | [] => [(key, value)]
  | (k, v) :: rest => if k = key then (key, value) :: rest else (k, v) :: putEntry key value rest

theorem keys_putEntry (key : κ) (value : α) (entries : List (κ × α)) :
    (putEntry key value entries).map Prod.fst =
      if key ∈ entries.map Prod.fst then entries.map Prod.fst
      else entries.map Prod.fst ++ [key] := by
  induction entries with
  | nil => rfl
  | cons entry rest ih =>
    obtain ⟨k, v⟩ := entry
    by_cases h : k = key
    · simp [putEntry, h]
    · have h' : ¬ key = k := fun e => h e.symm
      simp only [putEntry, h, if_false, List.map_cons, ih, List.mem_cons, h', false_or]
      split <;> simp

theorem nodup_putEntry {key : κ} {value : α} {entries : List (κ × α)}
    (h : (entries.map Prod.fst).Nodup) : ((putEntry key value entries).map Prod.fst).Nodup := by
  rw [keys_putEntry]
  split
  · exact h
  · next absent =>
    rw [List.nodup_append]
    refine ⟨h, by simp, ?_⟩
    intro a ha b hb e
    rw [List.mem_singleton] at hb
    exact absent (hb ▸ e ▸ ha)

namespace OrderedMap

def empty : OrderedMap κ α where
  entries := []

instance : Inhabited (OrderedMap κ α) := ⟨empty⟩

def insert (map : OrderedMap κ α) (key : κ) (value : α) : OrderedMap κ α where
  entries := putEntry key value map.entries
  nodup := nodup_putEntry map.nodup

/-- Writes all entries of a list in turn, so that a repeated key keeps its last value. -/
def ofList (entries : List (κ × α)) : OrderedMap κ α :=
  entries.foldl (fun map entry => map.insert entry.1 entry.2) empty

def find? (map : OrderedMap κ α) (key : κ) : Option α :=
  (map.entries.find? (·.1 = key)).map (·.2)

def keys (map : OrderedMap κ α) : List κ :=
  map.entries.map Prod.fst

def values (map : OrderedMap κ α) : List α :=
  map.entries.map Prod.snd

def size (map : OrderedMap κ α) : Nat :=
  map.entries.length

omit [DecidableEq κ] in
@[simp] theorem keys_empty : (empty : OrderedMap κ α).keys = [] := rfl

theorem keys_insert (map : OrderedMap κ α) (key : κ) (value : α) :
    (map.insert key value).keys = if key ∈ map.keys then map.keys else map.keys ++ [key] :=
  keys_putEntry key value map.entries

theorem find?_putEntry (key other : κ) (value : α) (entries : List (κ × α)) :
    (putEntry key value entries).find? (·.1 = other) =
      if other = key then some (key, value) else entries.find? (·.1 = other) := by
  induction entries with
  | nil =>
    by_cases h : key = other
    · simp [putEntry, h]
    · simp [putEntry, h, Ne.symm h]
  | cons entry rest ih =>
    obtain ⟨k, v⟩ := entry
    by_cases h : k = key
    · subst h
      by_cases ho : k = other
      · simp [putEntry, ho]
      · simp [putEntry, ho, Ne.symm ho]
    · by_cases ho : k = other
      · subst ho
        simp [putEntry, h]
      · simp [putEntry, h, ho, ih]

@[simp] theorem find?_insert_self (map : OrderedMap κ α) (key : κ) (value : α) :
    (map.insert key value).find? key = some value := by
  simp [find?, insert, find?_putEntry]

theorem find?_insert_of_ne (map : OrderedMap κ α) {key other : κ} (value : α) (h : other ≠ key) :
    (map.insert key value).find? other = map.find? other := by
  simp [find?, insert, find?_putEntry, h]

omit [DecidableEq κ] in
@[ext] theorem ext {a b : OrderedMap κ α} (h : a.entries = b.entries) : a = b := by
  cases a
  cases b
  cases h
  rfl

end OrderedMap

end JsonBinding
