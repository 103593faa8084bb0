import Egress.Proofs.Knowledge
import Egress.Proofs.Sequence
import Egress.Proofs.Table

/-!
# What a tariff holds after its calls

Factors are written and sensors are cleared, call after call, and some calls fail.  What the nested
tables hold in the end can be read off the list of calls: a sensor's factor on a connection stands
if it was the last one written there and the sensor was not cleared since, and a connection lists
its sensors in the order in which their present factors were first written.

A call is one step.  Each fact about the tables survives it, so it holds after any number of calls.
-/

namespace Egress.Tariff

variable {α : Type} [Scalar α]

/-- A call that may change a tariff. -/
inductive Call (α : Type) where
  | set (reference : Int) (sensor : String) (factor : α)
  | clear (sensor : String)

/-- Make a call.  It returns how many factors it removed. -/
def perform (tariff : Tariff α) : Call α → Tariff α × Except (Fault α) Nat
  | .set reference sensor factor =>
    match tariff.setFactor reference sensor factor with
    | .ok after => (after, .ok 0)
    | .error fault => (tariff, .error fault)
  | .clear sensor => ((tariff.clear sensor).1, .ok (tariff.clear sensor).2)

/-- Make calls one after another. -/
def performAll (tariff : Tariff α) (calls : List (Call α)) : Tariff α :=
  calls.foldl (fun tariff call => (tariff.perform call).1) tariff

/-! ## What calls say -/

/-- The call writes a factor of a sensor on one of the connections, and succeeds. -/
def Writes (size index : Nat) (sensor : String) (factor : α) (call : Call α) : Prop :=
  call = .set index sensor factor ∧ Scalar.isFactor factor = true ∧ index < size

/-- The call clears a sensor, or writes another factor in place of the one that the sensor has on a
connection. -/
def Supersedes (size index : Nat) (sensor : String) (call : Call α) : Prop :=
  call = .clear sensor ∨ ∃ factor, Writes size index sensor factor call

/-- A factor stands: it was written, and nothing superseded it. -/
def Stands (size : Nat) (calls : List (Call α)) (index : Nat) (sensor : String) (factor : α) :
    Prop :=
  ∃ early call, Lasts (Supersedes size index sensor) calls early call ∧
    Writes size index sensor factor call

/-- A sensor has had a factor on a connection since some call: the call wrote one where none stood,
and the sensor was not cleared after it. -/
def Since (size : Nat) (calls : List (Call α)) (index : Nat) (sensor : String) (time : Nat) :
    Prop :=
  ∃ early call factor, Lasts (· = .clear sensor) calls early call ∧ early.length = time ∧
    Writes size index sensor factor call ∧ ∀ other, ¬ Stands size early index sensor other

variable {size index : Nat} {sensor : String} {factor : α} {calls : List (Call α)} {call : Call α}

theorem not_stands_nil : ¬ Stands size [] index sensor factor := by
  rintro ⟨early, call, lasts, -⟩
  exact not_lasts_nil lasts

/-- With one more call, a factor stands that was written by it, or that stood before and was not
superseded by it. -/
theorem stands_append_iff : Stands size (calls ++ [call]) index sensor factor ↔
    Writes size index sensor factor call ∨
      ¬ Supersedes size index sensor call ∧ Stands size calls index sensor factor := by
  unfold Stands
  constructor
  · rintro ⟨early, written, lasts, writes⟩
    rcases lasts_append_singleton_iff.mp lasts with ⟨rfl, rfl⟩ | ⟨unended, before⟩
    · exact Or.inl writes
    · exact Or.inr ⟨unended, early, written, before, writes⟩
  · rintro (writes | ⟨unended, early, written, before, writes⟩)
    · exact ⟨calls, call, lasts_append_singleton_iff.mpr (Or.inl ⟨rfl, rfl⟩), writes⟩
    · exact ⟨early, written, lasts_append_singleton_iff.mpr (Or.inr ⟨unended, before⟩), writes⟩

theorem since_append_iff {time : Nat} : Since size (calls ++ [call]) index sensor time ↔
    (time = calls.length ∧ (∃ factor, Writes size index sensor factor call) ∧
      ∀ other, ¬ Stands size calls index sensor other) ∨
    call ≠ .clear sensor ∧ Since size calls index sensor time := by
  unfold Since
  constructor
  · rintro ⟨early, written, factor, lasts, rfl, writes, fresh⟩
    rcases lasts_append_singleton_iff.mp lasts with ⟨rfl, rfl⟩ | ⟨kept, before⟩
    · exact Or.inl ⟨rfl, ⟨factor, writes⟩, fresh⟩
    · exact Or.inr ⟨kept, early, written, factor, before, rfl, writes, fresh⟩
  · rintro (⟨rfl, ⟨factor, writes⟩, fresh⟩ | ⟨kept, early, written, factor, before, rfl, writes,
      fresh⟩)
    · exact ⟨calls, call, factor, lasts_append_singleton_iff.mpr (Or.inl ⟨rfl, rfl⟩), rfl, writes,
        fresh⟩
    · exact ⟨early, written, factor, lasts_append_singleton_iff.mpr (Or.inr ⟨kept, before⟩), rfl,
        writes, fresh⟩

/-- What a sensor has had on a connection since some call still stands, as it was first written or
as it was written over. -/
theorem exists_stands_of_since {time : Nat} (since : Since size calls index sensor time) :
    ∃ factor, Stands size calls index sensor factor := by
  induction calls using List.reverseRecOn with
  | nil =>
    rcases since with ⟨early, call, factor, lasts, -⟩
    exact absurd lasts not_lasts_nil
  | append_singleton calls call hypothesis =>
    rcases since_append_iff.mp since with ⟨-, ⟨factor, writes⟩, -⟩ | ⟨kept, before⟩
    · exact ⟨factor, stands_append_iff.mpr (Or.inl writes)⟩
    · rcases hypothesis before with ⟨factor, stands⟩
      by_cases another : ∃ other, Writes size index sensor other call
      · rcases another with ⟨other, writes⟩
        exact ⟨other, stands_append_iff.mpr (Or.inl writes)⟩
      · refine ⟨factor, stands_append_iff.mpr (Or.inr ⟨?_, stands⟩)⟩
        rintro (cleared | writes)
        · exact kept cleared
        · exact another writes

theorem lt_of_since {time : Nat} (since : Since size calls index sensor time) :
    time < calls.length := by
  rcases since with ⟨early, call, factor, lasts, rfl, -⟩
  exact lasts.length_lt

theorem Writes.unique (writes : Writes size index sensor factor call) {place : Nat}
    {name : String} {value : α} (another : Writes size place name value call) :
    place = index ∧ name = sensor ∧ value = factor := by
  cases writes.1.symm.trans another.1
  exact ⟨rfl, rfl, rfl⟩

theorem Writes.ne_clear (writes : Writes size index sensor factor call) (name : String) :
    call ≠ .clear name := by
  rintro rfl
  cases writes.1

/-- A factor that is written supersedes the one in its place and no other. -/
theorem Writes.supersedes_iff (writes : Writes size index sensor factor call) {place : Nat}
    {name : String} : Supersedes size place name call ↔ place = index ∧ name = sensor := by
  constructor
  · rintro (cleared | ⟨value, another⟩)
    · exact absurd cleared (writes.ne_clear name)
    · exact ⟨(writes.unique another).1, (writes.unique another).2.1⟩
  · rintro ⟨rfl, rfl⟩
    exact Or.inr ⟨factor, writes⟩

/-! ## What a call does -/

variable {tariff after : Tariff α}

/-- A sensor without a factor is listed last once it has one. -/
theorem keys_setFactor (written : tariff.setFactor index sensor factor = .ok after) (place : Nat) :
    (after.of place).keys =
      if place = index ∧ sensor ∉ (tariff.of index).keys then (tariff.of index).keys ++ [sensor]
      else (tariff.of place).keys := by
  rw [of_setFactor written]
  by_cases same : place = index
  · subst same
    rw [if_pos rfl, Table.keys_insert]
    by_cases old : sensor ∈ (tariff.of place).keys
    · simp [old]
    · simp [old]
  · simp [same]

/-- What a call is: it writes a factor, it clears a sensor, or it fails and changes nothing. -/
theorem perform_cases (tariff : Tariff α) (call : Call α) :
    (∃ index sensor factor after, Writes tariff.baseCosts.length index sensor factor call ∧
      tariff.setFactor index sensor factor = .ok after ∧ tariff.perform call = (after, .ok 0)) ∨
    (∃ sensor, call = .clear sensor) ∨
    ∃ reference sensor factor fault, call = .set reference sensor factor ∧
      (Scalar.isFactor factor = false ∧ fault = .invalidFactor sensor factor ∨
        ¬ (0 ≤ reference ∧ reference < tariff.baseCosts.length) ∧
          fault = .noConnectionIndex reference) ∧
      tariff.perform call = (tariff, .error fault) := by
  cases call with
  | clear sensor => exact Or.inr (Or.inl ⟨sensor, rfl⟩)
  | set reference sensor factor =>
    by_cases isFactor : Scalar.isFactor factor = true
    · by_cases inside : 0 ≤ reference ∧ reference < tariff.baseCosts.length
      · rcases Int.eq_ofNat_of_zero_le inside.1 with ⟨index, rfl⟩
        have lower : index < tariff.baseCosts.length := by omega
        have written : tariff.setFactor index sensor factor = .ok { tariff with
            factors := tariff.factors.insert index ((tariff.of index).insert sensor factor) } := by
          simp only [setFactor, if_pos isFactor, indexOf_of_lt lower]
          rfl
        refine Or.inl ⟨index, sensor, factor, _, ⟨rfl, isFactor, lower⟩, written, ?_⟩
        simp only [perform, written]
      · refine Or.inr (Or.inr ⟨reference, sensor, factor, .noConnectionIndex reference, rfl,
          Or.inr ⟨inside, rfl⟩, ?_⟩)
        simp only [perform, setFactor, if_pos isFactor, indexOf, if_neg inside]
        rfl
    · refine Or.inr (Or.inr ⟨reference, sensor, factor, .invalidFactor sensor factor, rfl,
        Or.inl ⟨Bool.eq_false_iff.mpr isFactor, rfl⟩, ?_⟩)
      simp only [perform, setFactor, if_neg isFactor]

omit [Scalar α] in
/-- Clearing a sensor erases it from the table of every connection. -/
theorem of_clear (tariff : Tariff α) (sensor : String) (index : Nat) :
    (tariff.clear sensor).1.of index = (tariff.of index).erase sensor := by
  apply Table.ext_entries
  simp only [of, clear, Table.find?_filter, Table.find?_mapValues]
  cases tariff.factors.find? index with
  | none => rfl
  | some table =>
    cases empty : (table.erase sensor).isEmpty with
    | false => simp [Option.filter, empty]
    | true =>
      rw [Table.isEmpty, List.isEmpty_iff] at empty
      simp [Option.filter, Table.isEmpty, empty]
      rfl

/-! ## What the tables record -/

/-- What the tables of a tariff are after some calls. -/
structure Records (size : Nat) (calls : List (Call α)) (tariff : Tariff α) : Prop where
  found : ∀ index sensor factor,
    (tariff.of index).find? sensor = some factor ↔ Stands size calls index sensor factor
  since : ∀ index, ∀ sensor ∈ (tariff.of index).keys, ∃ time, Since size calls index sensor time
  ordered : ∀ index, (tariff.of index).keys.Pairwise fun first second =>
    ∀ earlier later, Since size calls index first earlier → Since size calls index second later →
      earlier < later
  inhabited : ∀ entry ∈ tariff.factors.entries, entry.2.isEmpty = false

namespace Records

theorem mem_keys_iff (records : Records size calls tariff) :
    sensor ∈ (tariff.of index).keys ↔ ∃ factor, Stands size calls index sensor factor := by
  rw [Table.mem_keys_iff]
  exact exists_congr fun factor => records.found index sensor factor

/-- What had a factor before a call that writes one has had it since the same call. -/
theorem since_write_iff (records : Records size calls tariff)
    (writes : Writes size index sensor factor call) {place time : Nat} {name : String}
    (isKey : name ∈ (tariff.of place).keys) :
    Since size (calls ++ [call]) place name time ↔ Since size calls place name time := by
  rcases records.mem_keys_iff.mp isKey with ⟨present, stands⟩
  rw [since_append_iff]
  constructor
  · rintro (⟨-, -, absent⟩ | ⟨-, before⟩)
    · exact absurd stands (absent present)
    · exact before
  · exact fun before => Or.inr ⟨writes.ne_clear name, before⟩

/-- What had no factor has one since the call that writes it. -/
theorem since_write_of_absent (records : Records size calls tariff)
    (writes : Writes size index sensor factor call) (absent : sensor ∉ (tariff.of index).keys)
    {time : Nat} : Since size (calls ++ [call]) index sensor time ↔ time = calls.length := by
  have none : ∀ other, ¬ Stands size calls index sensor other :=
    fun other stands => absent (records.mem_keys_iff.mpr ⟨other, stands⟩)
  rw [since_append_iff]
  constructor
  · rintro (⟨isLast, -⟩ | ⟨-, impossible⟩)
    · exact isLast
    · rcases exists_stands_of_since impossible with ⟨other, stands⟩
      exact absurd stands (none other)
  · exact fun isLast => Or.inl ⟨isLast, ⟨factor, writes⟩, none⟩

/-- A call that writes a factor. -/
theorem write (records : Records size calls tariff)
    (writes : Writes size index sensor factor call)
    (written : tariff.setFactor index sensor factor = .ok after) :
    Records size (calls ++ [call]) after := by
  constructor
  · intro place name value
    rw [stands_append_iff, find?_setFactor written, ← records.found, writes.supersedes_iff]
    by_cases here : place = index ∧ name = sensor
    · rcases here with ⟨rfl, rfl⟩
      rw [if_pos ⟨rfl, rfl⟩]
      constructor
      · rintro same
        cases same
        exact Or.inl writes
      · rintro (another | ⟨elsewhere, -⟩)
        · rw [(writes.unique another).2.2]
        · exact absurd ⟨rfl, rfl⟩ elsewhere
    · rw [if_neg fun both => here ⟨Int.ofNat.inj both.1, both.2.symm⟩]
      constructor
      · exact fun found => Or.inr ⟨here, found⟩
      · rintro (another | ⟨-, found⟩)
        · exact absurd ⟨(writes.unique another).1, (writes.unique another).2.1⟩ here
        · exact found
  · intro place name isKey
    rw [keys_setFactor written] at isKey
    split at isKey
    · rename_i new
      rcases new with ⟨rfl, absent⟩
      rcases List.mem_append.mp isKey with old | last
      · rcases records.since place name old with ⟨time, since⟩
        exact ⟨time, (records.since_write_iff writes old).mpr since⟩
      · cases List.mem_singleton.mp last
        exact ⟨_, (records.since_write_of_absent writes absent).mpr rfl⟩
    · rcases records.since place name isKey with ⟨time, since⟩
      exact ⟨time, (records.since_write_iff writes isKey).mpr since⟩
  · intro place
    have before := (records.ordered place).imp_of_mem (S := fun first second =>
      ∀ earlier later, Since size (calls ++ [call]) place first earlier →
        Since size (calls ++ [call]) place second later → earlier < later)
      fun isFirst isSecond less earlier later sinceFirst sinceSecond =>
        less earlier later ((records.since_write_iff writes isFirst).mp sinceFirst)
          ((records.since_write_iff writes isSecond).mp sinceSecond)
    rw [keys_setFactor written]
    split
    -- a sensor that is listed last has had its factor since this call, and the others since earlier
    · rename_i new
      rcases new with ⟨rfl, absent⟩
      refine List.pairwise_append.mpr ⟨before, List.pairwise_singleton _ _, ?_⟩
      intro first isFirst second isSecond earlier later sinceFirst sinceSecond
      cases List.mem_singleton.mp isSecond
      rw [(records.since_write_of_absent writes absent).mp sinceSecond]
      exact lt_of_since ((records.since_write_iff writes isFirst).mp sinceFirst)
    · exact before
  · intro entry member
    rcases setFactor_cases written with ⟨place, -, rfl⟩
    rcases Table.mem_place member with rfl | old
    · exact Table.isEmpty_insert
    · exact records.inhabited entry old

/-- A call that clears a sensor. -/
theorem clear (records : Records size calls tariff) (sensor : String) :
    Records size (calls ++ [.clear sensor]) (tariff.clear sensor).1 := by
  have unwritten : ∀ {place name value},
      ¬ Writes size place name value (.clear sensor : Call α) := by
    rintro place name value ⟨impossible, -⟩
    cases impossible
  have cleared : ∀ {place name}, Supersedes size place name (.clear sensor : Call α) ↔
      sensor = name := by
    intro place name
    constructor
    · rintro (same | ⟨value, writes⟩)
      · exact Call.clear.inj same
      · exact absurd writes unwritten
    · rintro rfl
      exact Or.inl rfl
  have sinceIff : ∀ {place name time}, Since size (calls ++ [.clear sensor]) place name time ↔
      sensor ≠ name ∧ Since size calls place name time := by
    intro place name time
    rw [since_append_iff, Ne, Call.clear.injEq]
    constructor
    · rintro (⟨-, ⟨value, writes⟩, -⟩ | kept)
      · exact absurd writes unwritten
      · exact kept
    · exact Or.inr
  constructor
  · intro place name value
    rw [stands_append_iff, cleared, of_clear, Table.find?_erase, ← records.found]
    by_cases same : sensor = name
    · subst same
      simp [unwritten]
    · simp [same, unwritten]
  · intro place name isKey
    rw [of_clear, Table.keys_erase, List.mem_filter, decide_eq_true_iff] at isKey
    rcases records.since place name isKey.1 with ⟨time, since⟩
    exact ⟨time, sinceIff.mpr ⟨isKey.2.symm, since⟩⟩
  · intro place
    rw [of_clear, Table.keys_erase]
    refine ((records.ordered place).sublist List.filter_sublist).imp ?_
    intro first second less earlier later sinceFirst sinceSecond
    exact less earlier later (sinceIff.mp sinceFirst).2 (sinceIff.mp sinceSecond).2
  · intro entry member
    rcases List.mem_filter.mp member with ⟨-, kept⟩
    simpa using kept

/-- A call that fails. -/
theorem fail {reference : Int} (records : Records size calls tariff)
    (refused : Scalar.isFactor factor = false ∨ ¬ (0 ≤ reference ∧ reference < size)) :
    Records size (calls ++ [.set reference sensor factor]) tariff := by
  have unwritten : ∀ {place name value},
      ¬ Writes size place name value (.set reference sensor factor) := by
    rintro place name value ⟨same, isFactor, inside⟩
    cases same
    rcases refused with noFactor | outside
    · rw [isFactor] at noFactor
      cases noFactor
    · exact outside (by omega)
  have keeps : ∀ {place name},
      ¬ Supersedes size place name (.set reference sensor factor) := by
    rintro place name (impossible | ⟨value, writes⟩)
    · cases impossible
    · exact unwritten writes
  have sinceIff : ∀ {place name time},
      Since size (calls ++ [.set reference sensor factor]) place name time ↔
        Since size calls place name time := by
    intro place name time
    simp [since_append_iff, unwritten]
  constructor
  · intro place name value
    simp [stands_append_iff, unwritten, keeps, records.found]
  · intro place name isKey
    simpa [sinceIff] using records.since place name isKey
  · intro place
    simpa [sinceIff] using records.ordered place
  · exact records.inhabited

end Records

/-- Whatever a call does, the tables go on recording the calls. -/
theorem records_perform (records : Records tariff.baseCosts.length calls tariff)
    (call : Call α) :
    (tariff.perform call).1.baseCosts = tariff.baseCosts ∧
      Records tariff.baseCosts.length (calls ++ [call]) (tariff.perform call).1 := by
  rcases perform_cases tariff call with ⟨index, sensor, factor, after, writes, written, performed⟩ |
    ⟨sensor, rfl⟩ | ⟨reference, sensor, factor, fault, rfl, reason, performed⟩
  · rw [performed]
    refine ⟨?_, records.write writes written⟩
    rcases setFactor_cases written with ⟨place, -, rfl⟩
    rfl
  · exact ⟨rfl, records.clear sensor⟩
  · rw [performed]
    exact ⟨rfl, records.fail (reason.imp And.left And.left)⟩

/-- A tariff that began without factors records the calls made on it. -/
theorem records_performAll (baseCosts : List (Option α)) (lowest highest : Value α)
    (calls : List (Call α)) :
    ((⟨baseCosts, lowest, highest, ∅⟩ : Tariff α).performAll calls).baseCosts = baseCosts ∧
      Records baseCosts.length calls
        ((⟨baseCosts, lowest, highest, ∅⟩ : Tariff α).performAll calls) := by
  induction calls using List.reverseRecOn with
  | nil =>
    refine ⟨rfl, ?_, ?_, ?_, ?_⟩
    · intro index sensor factor
      simp [performAll, of, not_stands_nil]
    · intro index sensor isKey
      exact absurd isKey List.not_mem_nil
    · exact fun index => List.Pairwise.nil
    · exact fun entry member => absurd member List.not_mem_nil
  | append_singleton calls call hypothesis =>
    rw [performAll, List.foldl_append, List.foldl_cons, List.foldl_nil, ← performAll]
    rcases hypothesis with ⟨sameCosts, records⟩
    generalize (⟨baseCosts, lowest, highest, ∅⟩ : Tariff α).performAll calls = before at *
    subst sameCosts
    exact records_perform records call

/-! ## Entries -/

omit [Scalar α] in
theorem entries_eq (tariff : Tariff α) : tariff.entries =
    tariff.factors.entries.flatMap fun entry => entry.2.entries.map (Prod.mk entry.1) := rfl

omit [Scalar α] in
theorem mem_entries_iff : (index, sensor, factor) ∈ tariff.entries ↔
    (tariff.of index).find? sensor = some factor := by
  unfold entries of
  simp only [List.mem_flatMap, List.mem_map, Prod.mk.injEq]
  constructor
  · rintro ⟨⟨place, table⟩, isTable, ⟨name, value⟩, isEntry, rfl, rfl, rfl⟩
    rw [Table.find?_eq_some_iff.mpr isTable]
    exact Table.find?_eq_some_iff.mpr isEntry
  · intro found
    cases isTable : tariff.factors.find? index with
    | none =>
      rw [isTable] at found
      cases found
    | some table =>
      rw [isTable] at found
      exact ⟨(index, table), Table.find?_eq_some_iff.mp isTable, (sensor, factor),
        Table.find?_eq_some_iff.mp found, rfl, rfl, rfl⟩

omit [Scalar α] in
theorem entries_nodup (tariff : Tariff α) : tariff.entries.Nodup := by
  unfold entries
  rw [List.nodup_flatMap]
  constructor
  · rintro ⟨index, table⟩ -
    refine (List.nodup_map_iff ?_).mpr table.entries_nodup
    intro first second same
    exact congrArg Prod.snd same
  · refine (List.pairwise_map.mp tariff.factors.distinct).imp ?_
    rintro ⟨first, _⟩ ⟨second, _⟩ different
    refine List.disjoint_left.mpr ?_
    rintro entry inFirst inSecond
    rcases List.mem_map.mp inFirst with ⟨_, -, rfl⟩
    rcases List.mem_map.mp inSecond with ⟨_, -, same⟩
    exact different (congrArg Prod.fst same).symm

omit [Scalar α] in
theorem size_eq_length_entries (tariff : Tariff α) : tariff.size = tariff.entries.length := by
  have onward : ∀ (tables : List (Nat × Table String α)) (start : Nat),
      (tables.map Prod.snd).foldl (fun count table => count + table.size) start =
        start + (tables.flatMap fun entry => entry.2.entries.map (Prod.mk entry.1)).length := by
    intro tables
    induction tables with
    | nil => simp
    | cons table rest hypothesis =>
      intro start
      rw [List.map_cons, List.foldl_cons, hypothesis, List.flatMap_cons, List.length_append,
        List.length_map, Table.size, Nat.add_assoc]
  simpa [size, Table.values, entries_eq] using onward tariff.factors.entries 0

omit [Scalar α] in
/-- Clearing a sensor drops its entries and no others, and leaves the others in order. -/
theorem entries_clear (tariff : Tariff α) (sensor : String) :
    (tariff.clear sensor).1.entries =
      tariff.entries.filter fun entry => decide (entry.2.1 ≠ sensor) := by
  simp only [entries_eq, clear, Table.filter, Table.mapValues]
  induction tariff.factors.entries with
  | nil => rfl
  | cons entry rest hypothesis =>
    rcases entry with ⟨index, table⟩
    have dropped : (table.erase sensor).entries.map (Prod.mk index) =
        (table.entries.map (Prod.mk index)).filter fun entry => decide (entry.2.1 ≠ sensor) := by
      rw [List.filter_map]
      rfl
    rw [List.flatMap_cons, List.filter_append, ← hypothesis, ← dropped, List.map_cons,
      List.filter_cons]
    split
    · rw [List.flatMap_cons]
    · rename_i empty
      rw [Bool.not_eq_true, Bool.not_eq_false', Table.isEmpty, List.isEmpty_iff] at empty
      rw [empty]
      rfl

omit [Scalar α] in
/-- The count that clearing a sensor returns is the number of entries it dropped. -/
theorem count_clear (tariff : Tariff α) (sensor : String) :
    (tariff.clear sensor).2 + (tariff.clear sensor).1.size = tariff.size := by
  have dropped : (tariff.clear sensor).2 =
      tariff.entries.countP fun entry => decide (entry.2.1 = sensor) := by
    simp only [entries_eq, clear]
    induction tariff.factors.entries with
    | nil => rfl
    | cons entry rest hypothesis =>
      rcases entry with ⟨index, table⟩
      rw [List.countP_cons, List.flatMap_cons, List.countP_append, ← hypothesis, List.countP_map,
        Nat.add_comm]
      congr 1
      exact (table.countP_key sensor).symm
  rw [size_eq_length_entries, size_eq_length_entries, entries_clear, dropped,
    ← List.countP_eq_length_filter]
  have all := List.length_eq_countP_add_countP (l := tariff.entries)
    fun entry => decide (entry.2.1 = sensor)
  simpa using all.symm

/-! ## Answers -/

/-- What a tariff answers after some calls. -/
structure Answers (size : Nat) (calls : List (Call α)) (tariff : Tariff α) : Prop where
  /-- A sensor's factor on a connection is the one that stands, if one does. -/
  factor : ∀ index < size, ∀ sensor, ∃ answer, tariff.factor? index sensor = .ok answer ∧
    ∀ factor, answer = some factor ↔ Stands size calls index sensor factor
  /-- The factors of a connection come in the order of the calls since which its sensors have had
  one. -/
  factors : ∀ index < size, ∃ listed, tariff.factorsOf index = .ok listed ∧
    (listed.map Prod.fst).Nodup ∧
    (∀ sensor factor, (sensor, factor) ∈ listed ↔ Stands size calls index sensor factor) ∧
    (∀ entry ∈ listed, ∃ time, Since size calls index entry.1 time) ∧
    listed.Pairwise fun first second => ∀ earlier later,
      Since size calls index first.1 earlier → Since size calls index second.1 later →
        earlier < later
  entries : ∀ index sensor factor,
    (index, sensor, factor) ∈ tariff.entries ↔ Stands size calls index sensor factor
  once : tariff.entries.Nodup
  counted : tariff.size = tariff.entries.length
  /-- Clearing a sensor drops its entries and counts them. -/
  cleared : ∀ sensor, ∃ removed, (tariff.perform (.clear sensor)).2 = .ok removed ∧
    (tariff.perform (.clear sensor)).1.entries =
      tariff.entries.filter (fun entry => decide (entry.2.1 ≠ sensor)) ∧
    removed + (tariff.perform (.clear sensor)).1.entries.length = tariff.entries.length
  /-- What is stored is sound, and no table is stored without need. -/
  stored : ∀ entry ∈ tariff.factors.entries, entry.1 < size ∧ entry.2.isEmpty = false ∧
    ∀ factor ∈ entry.2.values, Scalar.isFinite factor = true ∧ Scalar.zero < factor
  /-- A call that fails has a factor that is none or names no connection, and changes nothing. -/
  failing : ∀ call fault, (tariff.perform call).2 = .error fault →
    (tariff.perform call).1 = tariff ∧ ∃ reference sensor factor,
      call = .set reference sensor factor ∧
      (Scalar.isFactor factor = false ∧ fault = .invalidFactor sensor factor ∨
        ¬ (0 ≤ reference ∧ reference < size) ∧ fault = .noConnectionIndex reference)

theorem Records.stored (records : Records size calls tariff) {entry : Nat × Table String α}
    (member : entry ∈ tariff.factors.entries) : entry.1 < size ∧ entry.2.isEmpty = false ∧
      ∀ factor ∈ entry.2.values, Scalar.isFinite factor = true ∧ Scalar.zero < factor := by
  rcases entry with ⟨index, table⟩
  have isTable : tariff.of index = table := by
    rw [of, Table.find?_eq_some_iff.mpr member]
    rfl
  have written : ∀ entry ∈ table.entries, index < size ∧ Scalar.isFactor entry.2 = true := by
    rintro ⟨sensor, factor⟩ isEntry
    have found : (tariff.of index).find? sensor = some factor := by
      rw [isTable, Table.find?_eq_some_iff]
      exact isEntry
    rcases (records.found index sensor factor).mp found with ⟨-, -, -, -, isFactor, inside⟩
    exact ⟨inside, isFactor⟩
  have inhabited := records.inhabited _ member
  refine ⟨?_, inhabited, ?_⟩
  · rcases List.exists_mem_of_ne_nil table.entries (by
      simpa [Table.isEmpty, List.isEmpty_eq_false_iff] using inhabited) with ⟨entry, isEntry⟩
    exact (written entry isEntry).1
  · intro factor isValue
    rcases List.mem_map.mp isValue with ⟨entry, isEntry, rfl⟩
    simpa [Scalar.isFactor] using (written entry isEntry).2

/-- After any calls, valid or failing, a tariff that began without factors answers for the factors
that stand. -/
theorem performAll_answers (baseCosts : List (Option α)) (lowest highest : Value α)
    (calls : List (Call α)) :
    Answers baseCosts.length calls
      ((⟨baseCosts, lowest, highest, ∅⟩ : Tariff α).performAll calls) := by
  rcases records_performAll baseCosts lowest highest calls with ⟨sameCosts, records⟩
  generalize (⟨baseCosts, lowest, highest, ∅⟩ : Tariff α).performAll calls = tariff at *
  subst sameCosts
  refine ⟨?_, ?_, ?_, tariff.entries_nodup, tariff.size_eq_length_entries, ?_,
    fun entry => records.stored, ?_⟩
  · intro index inside sensor
    refine ⟨(tariff.of index).find? sensor, ?_, fun factor => records.found index sensor factor⟩
    rw [factor?, indexOf_of_lt inside]
    rfl
  · intro index inside
    refine ⟨(tariff.of index).entries, ?_, (tariff.of index).distinct, ?_, ?_, ?_⟩
    · rw [factorsOf, indexOf_of_lt inside]
      rfl
    · intro sensor factor
      rw [← Table.find?_eq_some_iff, records.found]
    · intro entry isEntry
      exact records.since index entry.1 (List.mem_map_of_mem isEntry)
    · exact List.pairwise_map.mp (records.ordered index)
  · intro index sensor factor
    rw [mem_entries_iff, records.found]
  · intro sensor
    refine ⟨(tariff.clear sensor).2, rfl, tariff.entries_clear sensor, ?_⟩
    have counted := tariff.count_clear sensor
    rwa [size_eq_length_entries, size_eq_length_entries] at counted
  · intro call fault failed
    rcases perform_cases tariff call with ⟨_, _, _, _, -, -, performed⟩ | ⟨sensor, rfl⟩ |
      ⟨reference, sensor, factor, reason, rfl, why, performed⟩
    · rw [performed] at failed
      cases failed
    · cases failed
    · rw [performed] at failed ⊢
      cases failed
      exact ⟨rfl, reference, sensor, factor, rfl, why⟩

/-- A factor that is written over keeps its place, and one that was cleared comes back last. -/
example : ((⟨[some 1], .int 1, .int 2, ∅⟩ : Tariff Rat).performAll
    [.set 0 "smoke" 2, .set 0 "blocked" 3, .set 0 "smoke" 5, .set 0 "blocked" 7,
      .clear "smoke", .set 1 "smoke" 4, .set 0 "smoke" 6]).entries =
    [(0, "blocked", 7), (0, "smoke", 6)] := by
  decide +kernel

end Egress.Tariff
