/-!
# Tables in order of first insertion

A table holds at most one value for each key and lists its entries in the order in which their keys
were first inserted.  Writing a key that is present replaces the value where it stands; a key that
was erased comes back last.  Both facts show in answers, because factors are multiplied in table
order.

The lemmas describe every operation through `find?` and `keys`.
-/

namespace Egress

/-- Entries with distinct keys, oldest first. -/
structure Table (κ β : Type) where
  entries : List (κ × β)
  distinct : (entries.map Prod.fst).Nodup := by simp

namespace Table

variable {κ β : Type} [DecidableEq κ]

/-- The value of the first entry for a key. -/
def lookup : List (κ × β) → κ → Option β
  | [], _ => none
  | (k, v) :: rest, key => if k = key then some v else lookup rest key

/-- Replace the value of a key where it stands, or add the key at the end. -/
def place : List (κ × β) → κ → β → List (κ × β)
  | [], key, value => [(key, value)]
  | (k, v) :: rest, key, value =>
    if k = key then (k, value) :: rest else (k, v) :: place rest key value

theorem keys_place (entries : List (κ × β)) (key : κ) (value : β) :
    (place entries key value).map Prod.fst =
      if key ∈ entries.map Prod.fst then entries.map Prod.fst
      else entries.map Prod.fst ++ [key] := by
  induction entries with
  | nil => simp [place]
  | cons entry rest ih =>
    obtain ⟨k, v⟩ := entry
    by_cases same : k = key
    · simp [place, same]
    · have other : key ≠ k := fun equal => same equal.symm
      by_cases present : key ∈ rest.map Prod.fst <;>
        simp_all [place]

theorem lookup_place (entries : List (κ × β)) (key : κ) (value : β) (other : κ) :
    lookup (place entries key value) other =
      if key = other then some value else lookup entries other := by
  induction entries with
  | nil => simp [place, lookup]
  | cons entry rest ih =>
    obtain ⟨k, v⟩ := entry
    by_cases same : k = key
    · subst same
      by_cases asked : k = other <;> simp [place, lookup, asked]
    · by_cases asked : k = other
      · subst asked
        simp [place, lookup, same, Ne.symm same]
      · simp [place, lookup, same, asked, ih]

theorem lookup_eq_none_iff (entries : List (κ × β)) (key : κ) :
    lookup entries key = none ↔ key ∉ entries.map Prod.fst := by
  induction entries with
  | nil => simp [lookup]
  | cons entry rest ih =>
    obtain ⟨k, v⟩ := entry
    by_cases same : k = key
    · simp [lookup, same]
    · simp only [lookup, if_neg same, ih, List.map_cons, List.mem_cons, not_or]
      exact ⟨fun absent => ⟨Ne.symm same, absent⟩, fun both => both.2⟩

theorem lookup_filter_ne (entries : List (κ × β)) (key other : κ) :
    lookup (entries.filter fun entry => decide (entry.1 ≠ key)) other =
      if key = other then none else lookup entries other := by
  induction entries with
  | nil => simp [lookup]
  | cons entry rest ih =>
    obtain ⟨k, v⟩ := entry
    by_cases same : k = key
    · subst same
      by_cases asked : k = other <;> simp_all [lookup]
    · by_cases asked : k = other
      · subst asked
        simp [lookup, same, Ne.symm same]
      · simp_all [lookup]

omit [DecidableEq κ] in
theorem keys_filter_nodup {entries : List (κ × β)} (keep : κ × β → Bool)
    (distinct : (entries.map Prod.fst).Nodup) :
    ((entries.filter keep).map Prod.fst).Nodup :=
  (List.filter_sublist.map Prod.fst).nodup distinct

def empty : Table κ β := ⟨[], by simp⟩

instance : EmptyCollection (Table κ β) := ⟨empty⟩

instance : Inhabited (Table κ β) := ⟨∅⟩

def keys (table : Table κ β) : List κ := table.entries.map Prod.fst

def values (table : Table κ β) : List β := table.entries.map Prod.snd

def size (table : Table κ β) : Nat := table.entries.length

def isEmpty (table : Table κ β) : Bool := table.entries.isEmpty

def find? (table : Table κ β) (key : κ) : Option β := lookup table.entries key

def contains (table : Table κ β) (key : κ) : Bool := (table.find? key).isSome

/-- Write a value: in place for a known key, at the end for a new one. -/
def insert (table : Table κ β) (key : κ) (value : β) : Table κ β where
  entries := place table.entries key value
  distinct := by
    rw [keys_place]
    split
    · exact table.distinct
    · rename_i absent
      exact List.nodup_append.2 ⟨table.distinct, by simp, by
        intro a inside b last equal
        simp at last
        subst last equal
        exact absent inside⟩

def erase (table : Table κ β) (key : κ) : Table κ β where
  entries := table.entries.filter fun entry => decide (entry.1 ≠ key)
  distinct := keys_filter_nodup _ table.distinct

/-- Keep the entries that pass a test. -/
def filter (table : Table κ β) (keep : κ → β → Bool) : Table κ β where
  entries := table.entries.filter fun entry => keep entry.1 entry.2
  distinct := keys_filter_nodup _ table.distinct

/-- Change every value and no key. -/
def mapValues {δ : Type} (table : Table κ β) (change : κ → β → δ) : Table κ δ where
  entries := table.entries.map fun entry => (entry.1, change entry.1 entry.2)
  distinct := by
    rw [List.map_map]
    exact table.distinct

/-- Insert pairs from left to right: a repeated key keeps its first place and its last value. -/
def ofList (pairs : List (κ × β)) : Table κ β :=
  pairs.foldl (fun table pair => table.insert pair.1 pair.2) ∅

@[simp] theorem find?_empty (key : κ) : (∅ : Table κ β).find? key = none := rfl

theorem find?_insert (table : Table κ β) (key : κ) (value : β) (other : κ) :
    (table.insert key value).find? other = if key = other then some value else table.find? other :=
  lookup_place _ _ _ _

theorem find?_erase (table : Table κ β) (key other : κ) :
    (table.erase key).find? other = if key = other then none else table.find? other :=
  lookup_filter_ne _ _ _

theorem keys_insert (table : Table κ β) (key : κ) (value : β) :
    (table.insert key value).keys =
      if key ∈ table.keys then table.keys else table.keys ++ [key] :=
  keys_place _ _ _

theorem find?_eq_none_iff (table : Table κ β) (key : κ) :
    table.find? key = none ↔ key ∉ table.keys :=
  lookup_eq_none_iff _ _

omit [DecidableEq κ] in
theorem keys_nodup (table : Table κ β) : table.keys.Nodup := table.distinct

end Table

end Egress
