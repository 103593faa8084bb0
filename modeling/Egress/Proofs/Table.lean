import Mathlib.Data.List.Nodup
import Mathlib.Data.List.Perm.Basic
import Egress.Table

/-!
# What is found in a table

Since keys are distinct, finding a value under a key and listing the entry are the same.  So two
tables in which the same is found hold the same entries, though maybe in another order, and every
operation on the list of entries can be read as one on what is found.
-/

namespace Egress.Table

variable {κ β γ : Type} [DecidableEq κ]

omit [DecidableEq κ] in
theorem ext_entries {first second : Table κ β} (same : first.entries = second.entries) :
    first = second := by
  cases first
  cases second
  congr

/-- Finding in a list of entries with distinct keys. -/
theorem lookup_eq_some_iff {entries : List (κ × β)} (distinct : (entries.map Prod.fst).Nodup)
    {key : κ} {value : β} : lookup entries key = some value ↔ (key, value) ∈ entries := by
  induction entries with
  | nil => simp [lookup]
  | cons entry rest hypothesis =>
    rcases entry with ⟨k, v⟩
    rw [List.map_cons, List.nodup_cons] at distinct
    have onward := hypothesis distinct.2
    by_cases same : k = key
    · subst same
      have absent : (k, value) ∉ rest := fun member =>
        distinct.1 (List.mem_map.mpr ⟨(k, value), member, rfl⟩)
      simp [lookup, absent, eq_comm]
    · simp [lookup, same, Ne.symm same, onward]

theorem find?_eq_some_iff {table : Table κ β} {key : κ} {value : β} :
    table.find? key = some value ↔ (key, value) ∈ table.entries :=
  lookup_eq_some_iff table.distinct

theorem mem_keys_iff {table : Table κ β} {key : κ} :
    key ∈ table.keys ↔ ∃ value, table.find? key = some value := by
  rw [← not_iff_not, ← table.find?_eq_none_iff key, Option.eq_none_iff_forall_ne_some]
  simp

theorem contains_iff_mem_keys {table : Table κ β} {key : κ} :
    table.contains key = true ↔ key ∈ table.keys := by
  rw [mem_keys_iff, contains, Option.isSome_iff_exists]

omit [DecidableEq κ] in
theorem entries_nodup (table : Table κ β) : table.entries.Nodup :=
  List.Nodup.of_map Prod.fst table.distinct

/-- Tables in which the same is found hold the same entries. -/
theorem perm_of_find? {first second : Table κ β}
    (same : ∀ key, first.find? key = second.find? key) : first.entries.Perm second.entries := by
  rw [List.perm_ext_iff_of_nodup first.entries_nodup second.entries_nodup]
  rintro ⟨key, value⟩
  rw [← find?_eq_some_iff, ← find?_eq_some_iff, same key]

theorem mem_keys_insert {table : Table κ β} {key other : κ} {value : β} :
    other ∈ (table.insert key value).keys ↔ other = key ∨ other ∈ table.keys := by
  rw [keys_insert]
  split
  · rename_i present
    exact ⟨Or.inr, fun either => either.elim (fun same => same ▸ present) id⟩
  · rw [List.mem_append, List.mem_singleton, or_comm]

/-! ## Operations on all entries -/

theorem find?_mapValues (table : Table κ β) (change : κ → β → γ) (key : κ) :
    (table.mapValues change).find? key = (table.find? key).map (change key) := by
  have whole : ∀ entries : List (κ × β),
      lookup (entries.map fun entry => (entry.1, change entry.1 entry.2)) key =
        (lookup entries key).map (change key) := by
    intro entries
    induction entries with
    | nil => rfl
    | cons entry rest hypothesis =>
      rcases entry with ⟨k, v⟩
      by_cases same : k = key
      · subst same
        simp [lookup]
      · simp [lookup, same, hypothesis]
  exact whole table.entries

omit [DecidableEq κ] in
@[simp] theorem keys_mapValues (table : Table κ β) (change : κ → β → γ) :
    (table.mapValues change).keys = table.keys := by
  simp [keys, mapValues]

theorem mapValues_erase (table : Table κ β) (change : κ → β → γ) (key : κ) :
    (table.erase key).mapValues change = (table.mapValues change).erase key := by
  refine ext_entries ?_
  simp only [mapValues, erase, List.filter_map]
  rfl

theorem find?_filter (table : Table κ β) (keep : κ → β → Bool) (key : κ) :
    (table.filter keep).find? key = (table.find? key).filter (keep key) := by
  apply Option.ext
  intro value
  rw [find?_eq_some_iff, Option.filter_eq_some_iff, find?_eq_some_iff]
  exact List.mem_filter

omit [DecidableEq κ] in
theorem keys_filter (table : Table κ β) (keep : κ → Bool) :
    (table.filter fun key _ => keep key).keys = table.keys.filter keep := by
  simp only [keys, filter, List.filter_map]
  rfl

theorem keys_erase (table : Table κ β) (key : κ) :
    (table.erase key).keys = table.keys.filter fun other => decide (other ≠ key) :=
  table.keys_filter fun other => decide (other ≠ key)

/-- A key has one entry or none. -/
theorem countP_key (table : Table κ β) (key : κ) :
    (table.entries.countP fun entry => decide (entry.1 = key)) =
      if table.contains key then 1 else 0 := by
  have counted : (table.entries.countP fun entry => decide (entry.1 = key)) =
      table.keys.count key := by
    rw [keys, List.count, List.countP_map]
    rfl
  rw [counted, table.keys_nodup.count]
  simp only [contains_iff_mem_keys]

/-! ## Entries written -/

theorem isEmpty_insert {table : Table κ β} {key : κ} {value : β} :
    (table.insert key value).isEmpty = false := by
  rcases table with ⟨entries | ⟨entry, rest⟩, distinct⟩
  · rfl
  · simp only [insert, isEmpty, place]
    split
    · rfl
    · rfl

theorem mem_place {entries : List (κ × β)} {key : κ} {value : β} {entry : κ × β}
    (member : entry ∈ place entries key value) : entry = (key, value) ∨ entry ∈ entries := by
  induction entries with
  | nil => exact Or.inl (List.mem_singleton.mp member)
  | cons first rest hypothesis =>
    rcases first with ⟨k, v⟩
    rw [place] at member
    split at member
    · rename_i same
      rcases List.mem_cons.mp member with rfl | later
      · exact Or.inl (by rw [same])
      · exact Or.inr (List.mem_cons_of_mem _ later)
    · rcases List.mem_cons.mp member with rfl | later
      · exact Or.inr List.mem_cons_self
      · exact (hypothesis later).imp_right (List.mem_cons_of_mem _)

/-- A table that was made from pairs holds only such pairs. -/
theorem mem_ofList {pairs : List (κ × β)} {entry : κ × β}
    (member : entry ∈ (ofList pairs).entries) : entry ∈ pairs := by
  have spread : ∀ table : Table κ β, ∀ pairs : List (κ × β),
      entry ∈ (pairs.foldl (fun table pair => table.insert pair.1 pair.2) table).entries →
        entry ∈ table.entries ∨ entry ∈ pairs := by
    intro table pairs
    induction pairs generalizing table with
    | nil => exact Or.inl
    | cons pair rest hypothesis =>
      intro inside
      rcases hypothesis _ inside with before | later
      · rcases mem_place before with rfl | old
        · exact Or.inr List.mem_cons_self
        · exact Or.inl old
      · exact Or.inr (List.mem_cons_of_mem _ later)
  rcases spread ∅ pairs member with impossible | isPair
  · exact absurd impossible List.not_mem_nil
  · exact isPair

theorem place_of_notMem {entries : List (κ × β)} {key : κ} (absent : key ∉ entries.map Prod.fst)
    (value : β) : place entries key value = entries ++ [(key, value)] := by
  induction entries with
  | nil => rfl
  | cons entry rest hypothesis =>
    rcases entry with ⟨k, v⟩
    rw [List.map_cons, List.mem_cons, not_or] at absent
    rw [place, if_neg (Ne.symm absent.1), hypothesis absent.2, List.cons_append]

/-- A table that was made from pairs with distinct keys lists the pairs. -/
theorem entries_ofList {pairs : List (κ × β)} (distinct : (pairs.map Prod.fst).Nodup) :
    (ofList pairs).entries = pairs := by
  have spread : ∀ table : Table κ β, ∀ pairs : List (κ × β),
      ((table.entries ++ pairs).map Prod.fst).Nodup →
        (pairs.foldl (fun table pair => table.insert pair.1 pair.2) table).entries =
          table.entries ++ pairs := by
    intro table pairs
    induction pairs generalizing table with
    | nil => exact fun _ => (List.append_nil _).symm
    | cons pair rest hypothesis =>
      intro apart
      have fresh : pair.1 ∉ table.entries.map Prod.fst := by
        rw [List.map_append, List.map_cons, List.nodup_append] at apart
        exact fun member => apart.2.2 _ member _ List.mem_cons_self rfl
      have inserted : (table.insert pair.1 pair.2).entries = table.entries ++ [pair] :=
        place_of_notMem fresh pair.2
      rw [List.append_cons, ← inserted] at apart
      rw [List.foldl_cons, hypothesis _ apart, inserted, List.append_cons table.entries pair rest]
  exact spread ∅ pairs distinct

theorem place_of_lookup {entries : List (κ × β)} {key : κ} {value : β}
    (found : lookup entries key = some value) : place entries key value = entries := by
  induction entries with
  | nil => cases found
  | cons entry rest hypothesis =>
    rcases entry with ⟨k, v⟩
    rw [lookup] at found
    rw [place]
    split at found
    · rename_i same
      cases found
      rw [if_pos same]
    · rename_i different
      rw [if_neg different, hypothesis found]

/-- Writing a value where it stands already changes nothing. -/
theorem insert_of_find? {table : Table κ β} {key : κ} {value : β}
    (found : table.find? key = some value) : table.insert key value = table :=
  ext_entries (place_of_lookup found)

theorem map_place (entries : List (κ × β)) (change : κ → β → γ) (key : κ) (value : β) :
    (place entries key value).map (fun entry => (entry.1, change entry.1 entry.2)) =
      place (entries.map fun entry => (entry.1, change entry.1 entry.2)) key
        (change key value) := by
  induction entries with
  | nil => rfl
  | cons entry rest hypothesis =>
    rcases entry with ⟨k, v⟩
    by_cases same : k = key
    · subst same
      simp [place]
    · simp [place, same, hypothesis]

theorem mapValues_insert (table : Table κ β) (change : κ → β → γ) (key : κ) (value : β) :
    (table.insert key value).mapValues change =
      (table.mapValues change).insert key (change key value) :=
  ext_entries (map_place _ _ _ _)

theorem place_place (entries : List (κ × β)) (key : κ) (first second : β) :
    place (place entries key first) key second = place entries key second := by
  induction entries with
  | nil => simp [place]
  | cons entry rest hypothesis =>
    rcases entry with ⟨k, v⟩
    by_cases same : k = key
    · simp [place, same]
    · simp [place, same, hypothesis]

/-- Of two values that are written under one key the second one stands. -/
theorem insert_insert (table : Table κ β) (key : κ) (first second : β) :
    (table.insert key first).insert key second = table.insert key second :=
  ext_entries (place_place _ _ _ _)

/-! ## Entries erased -/

theorem erase_of_notMem {table : Table κ β} {key : κ} (absent : key ∉ table.keys) :
    table.erase key = table := by
  refine ext_entries (List.filter_eq_self.mpr fun entry member => decide_eq_true ?_)
  rintro rfl
  exact absent (List.mem_map_of_mem member)

theorem filter_ne_place (entries : List (κ × β)) (key : κ) (value : β) (erased : κ) :
    ((place entries key value).filter fun entry => decide (entry.1 ≠ erased)) =
      if key = erased then entries.filter fun entry => decide (entry.1 ≠ erased)
      else place (entries.filter fun entry => decide (entry.1 ≠ erased)) key value := by
  induction entries with
  | nil => by_cases same : key = erased <;> simp [place, same]
  | cons entry rest hypothesis =>
    rcases entry with ⟨k, v⟩
    by_cases here : k = key
    · subst here
      by_cases same : k = erased <;> simp [place, same]
    · by_cases gone : k = erased
      · subst gone
        simpa [place, here, Ne.symm here] using hypothesis
      · by_cases same : key = erased
        · simpa [place, here, gone, same] using hypothesis
        · simpa [place, here, gone, same] using hypothesis

/-- What is written under a key is gone once the key is erased. -/
theorem erase_insert_self (table : Table κ β) (key : κ) (value : β) :
    (table.insert key value).erase key = table.erase key :=
  ext_entries ((filter_ne_place _ _ _ _).trans (if_pos rfl))

/-- Writing under one key and erasing another may be exchanged. -/
theorem erase_insert_of_ne (table : Table κ β) {key erased : κ} (different : key ≠ erased)
    (value : β) : (table.insert key value).erase erased = (table.erase erased).insert key value :=
  ext_entries ((filter_ne_place _ _ _ _).trans (if_neg different))

end Egress.Table
