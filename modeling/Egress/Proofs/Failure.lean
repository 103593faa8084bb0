import Egress.Proofs.Assessment

/-!
# Sensors that fail

Executing a sensor first reads its report as a whole and then writes it entry by entry.  Reading
refuses a report with a value that is no factor.  Whether the connections exist is not asked there;
only writing finds that out.  So a sensor that fails has written nothing, except for one from
outside whose report names connections of the network first and a missing one later: what stands
before the missing one stays written.

A built-in sensor reports on connections of the network, and whatever of that can be read can be
written to its end.  This takes a network that is numbered by position, and a tariff with a place
for each of its connections, as an awareness is made with.
-/

namespace Egress

variable {α σ : Type} [Scalar α]

namespace Tariff

variable {tariff after : Tariff α} {reference : Int}

/-- Being the index of a connection. -/
def Holds (tariff : Tariff α) (reference : Int) : Prop :=
  0 ≤ reference ∧ reference < tariff.baseCosts.length

instance (tariff : Tariff α) (reference : Int) : Decidable (tariff.Holds reference) :=
  inferInstanceAs (Decidable (_ ∧ _))

omit [Scalar α] in
theorem holds_congr (sameCosts : after.baseCosts = tariff.baseCosts) :
    after.Holds reference ↔ tariff.Holds reference := by
  rw [Holds, Holds, sameCosts]

/-- A factor on a missing connection is refused as such. -/
theorem setFactor_of_not_holds (missing : ¬ tariff.Holds reference) (name : String) {factor : α}
    (valid : Scalar.isFactor factor = true) :
    tariff.setFactor reference name factor = .error (.noConnectionIndex reference) := by
  have notIndex : tariff.indexOf reference = .error (.noConnectionIndex reference) := if_neg missing
  unfold setFactor
  rw [if_pos valid, notIndex]
  rfl

end Tariff

namespace Sensor

variable {tariff : Tariff α} {name : String} {entries early late : List (Int × α)}

/-! ## Reports on missing connections -/

/-- A report with valid factors on connections of the tariff is written to its end. -/
theorem write_of_held (held : ∀ entry ∈ entries, tariff.Holds entry.1)
    (valid : ∀ entry ∈ entries, Scalar.isFactor entry.2 = true) :
    (write name tariff entries).2 = .ok () := by
  refine write_succeeds (fun entry member => ?_) valid
  rcases held entry member with ⟨nonneg, inside⟩
  exact ⟨entry.1.toNat, (Int.toNat_of_nonneg nonneg).symm, by omega⟩

/-- Reports are written one after another. -/
theorem write_append (succeeded : (write name tariff early).2 = .ok ()) :
    write name tariff (early ++ late) = write name (write name tariff early).1 late := by
  induction early generalizing tariff with
  | nil => rfl
  | cons entry rest hypothesis =>
    rcases entry with ⟨reference, factor⟩
    cases written : tariff.setFactor reference name factor with
    | error fault =>
      simp only [write, written] at succeeded
      cases succeeded
    | ok after =>
      simp only [write, written] at succeeded
      simp only [List.cons_append, write, written]
      exact hypothesis succeeded

/-- A report with valid factors is written as far as the first connection that is missing. -/
theorem write_of_missing {reference : Int} {factor : α}
    (held : ∀ entry ∈ early, tariff.Holds entry.1) (missing : ¬ tariff.Holds reference)
    (valid : ∀ entry ∈ early ++ (reference, factor) :: late, Scalar.isFactor entry.2 = true) :
    write name tariff (early ++ (reference, factor) :: late) =
      ((write name tariff early).1, .error (.noConnectionIndex reference)) := by
  have succeeded : (write name tariff early).2 = .ok () :=
    write_of_held held fun entry member => valid entry (List.mem_append_left _ member)
  have sameCosts : (write name tariff early).1.baseCosts = tariff.baseCosts :=
    write_keeps (fun after => after.baseCosts = tariff.baseCosts)
      (fun _ _ _ _ written same => (Tariff.setFactor_frame written).1.trans same) rfl
  have stillMissing := mt (Tariff.holds_congr sameCosts).mp missing
  have isFactor := valid _ (List.mem_append_right _ List.mem_cons_self)
  rw [write_append succeeded, write, Tariff.setFactor_of_not_holds stillMissing name isFactor]

omit [Scalar α] in
/-- A report names connections of the tariff only, or there is a first one that is missing. -/
theorem held_or_missing (tariff : Tariff α) (entries : List (Int × α)) :
    (∀ entry ∈ entries, tariff.Holds entry.1) ∨
      ∃ early reference factor late, entries = early ++ (reference, factor) :: late ∧
        (∀ entry ∈ early, tariff.Holds entry.1) ∧ ¬ tariff.Holds reference := by
  induction entries with
  | nil => exact Or.inl fun _ member => absurd member List.not_mem_nil
  | cons entry rest hypothesis =>
    by_cases holds : tariff.Holds entry.1
    · rcases hypothesis with held | ⟨early, reference, factor, late, rfl, held, missing⟩
      · exact Or.inl (List.forall_mem_cons.mpr ⟨holds, held⟩)
      · exact Or.inr ⟨entry :: early, reference, factor, late, rfl,
          List.forall_mem_cons.mpr ⟨holds, held⟩, missing⟩
    · exact Or.inr ⟨[], entry.1, entry.2, rest, rfl, fun _ member => absurd member List.not_mem_nil,
        holds⟩

/-! ## Reports as they are read -/

/-- What is read holds valid factors. -/
theorem valid_of_factorsIn {report : Table Int (Value α)}
    (read : factorsIn name report = .ok entries) :
    ∀ entry ∈ entries, Scalar.isFactor entry.2 = true := by
  intro entry member
  rcases mem_factorsIn read member with ⟨-, -, -, valid⟩
  exact valid

/-- Factors from outside are read as they are, if all are valid. -/
theorem factorsIn_reals_iff {table : Table Int α} :
    factorsIn name (table.mapValues fun _ factor => .real factor) = .ok entries ↔
      entries = table.entries ∧ ∀ entry ∈ table.entries, Scalar.isFactor entry.2 = true := by
  have mapped : (table.mapValues fun _ factor => Value.real factor).entries =
      table.entries.map fun entry => (entry.1, Value.real entry.2) := rfl
  constructor
  · intro read
    have same : entries = table.entries := by
      rw [factorsIn, mapped, List.mapM_map, mapM_eq_ok_iff] at read
      refine (List.forall₂_eq_eq_eq ▸ read.imp fun entry taken said => ?_).symm
      have said : (if Scalar.isFactor entry.2 = true then .ok entry
        else .error (Fault.invalidFactor name entry.2)) = Except.ok taken := said
      split at said
      · exact Except.ok.inj said
      · cases said
    exact ⟨same, same ▸ valid_of_factorsIn read⟩
  · rintro ⟨rfl, valid⟩
    rw [factorsIn, mapped, List.mapM_map]
    refine (mapM_of_values fun entry member => ?_).trans (congrArg Except.ok (List.map_id _))
    exact if_pos (valid entry member)

variable [Outline σ α] {world : World α σ} {agent : Agent α} {awareness : Awareness α}
  {sensor : Sensor α}

/-- What is read from a built-in sensor names connections of the network. -/
theorem held_of_builtIn (builtIn : sensor.isBuiltIn = true)
    (numbered : awareness.network.Numbered)
    (covered : awareness.tariff.baseCosts.length = awareness.network.connections.length)
    {report : Table Int (Value α)} (observed : sensor.observe world agent awareness = .ok report)
    (read : factorsIn name report = .ok entries) :
    ∀ entry ∈ entries, awareness.tariff.Holds entry.1 := by
  intro entry member
  rcases mem_factorsIn read member with ⟨value, isReported, -, -⟩
  rcases observe_cases builtIn observed with rfl | ⟨recent, source, -, -, reported⟩
  · exact absurd isReported List.not_mem_nil
  · rcases mem_reportOn reported isReported with ⟨connection, leaves, isIndex, -⟩
    have inside := numbered.index_lt_of_mem (Network.mem_leaving.mp leaves).1
    dsimp only at isIndex
    rw [isIndex]
    exact ⟨by omega, by omega⟩

/-! ## What a failure leaves -/

/-- A sensor from outside reports valid factors, the first for a connection of the tariff and a
later one for a connection that is missing. -/
def Overreaches (tariff : Tariff α) : Sensor α → Prop
  | custom _ (.factors table) =>
    (∀ entry ∈ table.entries, Scalar.isFactor entry.2 = true) ∧
      ∃ first others, table.entries = first :: others ∧ tariff.Holds first.1 ∧
        ∃ entry ∈ others, ¬ tariff.Holds entry.1
  | _ => False

/-- Discovery that fails has discovered nothing. -/
theorem discovery_fails_clean {fault : Fault α}
    (failed : (discovery.execute world agent awareness).2 = .error fault) :
    (discovery.execute world agent awareness).1 = awareness := by
  simp only [execute] at failed ⊢
  split
  · rfl
  · split
    · rfl
    · simp_all only [reduceCtorEq]

/-- A sensor whose reading names a missing connection after others overreaches. -/
theorem overreaches_of_read (numbered : awareness.network.Numbered)
    (covered : awareness.tariff.baseCosts.length = awareness.network.connections.length)
    {report : Table Int (Value α)} (observed : sensor.observe world agent awareness = .ok report)
    {reference : Int} {factor : α}
    (read : factorsIn sensor.name report = .ok (early ++ (reference, factor) :: late))
    (held : ∀ entry ∈ early, awareness.tariff.Holds entry.1)
    (missing : ¬ awareness.tariff.Holds reference) (begun : early ≠ []) :
    sensor.Overreaches awareness.tariff := by
  have isMissing : (reference, factor) ∈ early ++ (reference, factor) :: late :=
    List.mem_append_right _ List.mem_cons_self
  cases builtIn : sensor.isBuiltIn with
  | true =>
    exact absurd (held_of_builtIn builtIn numbered covered observed read _ isMissing) missing
  | false =>
    cases sensor with
    | custom name kind =>
      cases kind with
      | factors table =>
        cases observed
        rcases factorsIn_reals_iff.mp read with ⟨same, valid⟩
        rcases List.exists_cons_of_ne_nil begun with ⟨first, others, rfl⟩
        refine ⟨valid, first, others ++ (reference, factor) :: late, same.symm,
          held first List.mem_cons_self, (reference, factor), ?_, missing⟩
        exact List.mem_append_right _ List.mem_cons_self
      | fault fault => cases observed
      | lost => cases observed
    | blank | discovery | category _ | history _ | smoke _ _ | blocked _ _ => cases builtIn

/-- A sensor that fails leaves the awareness as it was, unless it overreaches. -/
theorem execute_fails_clean (numbered : awareness.network.Numbered)
    (covered : awareness.tariff.baseCosts.length = awareness.network.connections.length)
    {fault : Fault α} (failed : (sensor.execute world agent awareness).2 = .error fault)
    (modest : ¬ sensor.Overreaches awareness.tariff) :
    (sensor.execute world agent awareness).1 = awareness := by
  by_cases isDiscovery : sensor = .discovery
  · subst isDiscovery
    exact discovery_fails_clean failed
  rw [execute_eq_written isDiscovery] at failed ⊢
  cases observed : sensor.observe world agent awareness with
  | error fault => rfl
  | ok report =>
    cases read : factorsIn sensor.name report with
    | error fault => simp only [Except.bind, read, written]
    | ok entries =>
      simp only [observed, Except.bind, read, written] at failed ⊢
      have valid := valid_of_factorsIn read
      rcases held_or_missing awareness.tariff entries with held |
        ⟨early, reference, factor, late, rfl, held, missing⟩
      · -- all that was read could be written
        rw [write_of_held held valid] at failed
        cases failed
      · cases early with
        | nil => rw [write_of_missing held missing valid]; rfl
        | cons first others =>
          exact absurd (overreaches_of_read numbered covered observed read held missing
            (List.cons_ne_nil first others)) modest

/-- A report with a factor for each of two doors, the second of which is below zero. -/
def halfValid : Sensor Rat := .custom "Marshal" (.factors (Table.ofList [(0, 2), (1, -1)]))

/-- In the row of rooms, where a report with a bad factor is refused as a whole. -/
theorem execute_fails_clean_in_row :
    ∃ fault, (halfValid.execute Guidance.calmRow Guidance.walker (.inRow false [])).2 =
        .error fault ∧
      (halfValid.execute Guidance.calmRow Guidance.walker (.inRow false [])).1 =
        .inRow false [] := by
  have modest : ¬ halfValid.Overreaches (Awareness.inRow false []).tariff := by
    rintro ⟨valid, -⟩
    exact absurd (valid (1, -1) (by decide)) (by decide +kernel)
  have failed : (halfValid.execute Guidance.calmRow Guidance.walker (.inRow false [])).2 =
      .error (.invalidFactor "Marshal" (-1)) := by
    rfl
  exact ⟨_, failed, execute_fails_clean Building.row_priced.formed.numbered (by decide +kernel)
    failed modest⟩

/-- A report with a factor for a door and one for a door that does not exist. -/
def halfKnown : Sensor Rat := .custom "Marshal" (.factors (Table.ofList [(0, 2), (99, 3)]))

/-- In the row of rooms, a sensor that names a missing door fails with a factor written. -/
theorem execute_fails_midway :
    let before : Awareness Rat := .inRow false []
    let after := halfKnown.execute Guidance.calmRow Guidance.walker before
    after.2.isOk = false ∧ before.tariff.entries = [] ∧
      after.1.tariff.entries = [(0, "Marshal", 2)] := by
  decide +kernel

/-- A sensor that overreaches fails, and what it reports before the first missing connection stays
written under its name. -/
theorem execute_of_overreaches {table : Table Int α}
    (overreaches : (custom name (.factors table)).Overreaches awareness.tariff)
    (world : World α σ) (agent : Agent α) :
    ∃ early reference factor late, table.entries = early ++ (reference, factor) :: late ∧
      early ≠ [] ∧ ¬ awareness.tariff.Holds reference ∧
      (custom name (.factors table)).execute world agent awareness =
        ({ awareness with tariff := (write name awareness.tariff early).1 },
          .error (.noConnectionIndex reference)) ∧
      ∀ index : Nat, ∀ given, ((index : Int), given) ∈ early →
        ((write name awareness.tariff early).1.of index).find? name = some given := by
  rcases overreaches with ⟨valid, first, others, parts, holds, entry, later, notHeld⟩
  rcases held_or_missing awareness.tariff table.entries with held |
    ⟨early, reference, factor, late, split, held, missing⟩
  · exact absurd (held entry (parts ▸ List.mem_cons_of_mem _ later)) notHeld
  have writable := split ▸ valid
  refine ⟨early, reference, factor, late, split, ?_, missing, ?_, ?_⟩
  · rintro rfl
    rw [parts] at split
    cases split
    exact missing holds
  · rw [execute_eq_written (by rintro ⟨⟩)]
    have read : factorsIn name (table.mapValues fun _ factor => .real factor) =
        .ok table.entries := factorsIn_reals_iff.mpr ⟨rfl, valid⟩
    simp only [observe, Except.bind, Sensor.name, read, written, split,
      write_of_missing held missing writable, Except.map]
  · have distinct : (early.map Prod.fst).Nodup := by
      have whole := table.distinct
      rw [split, List.map_append] at whole
      exact whole.of_append_left
    exact fun index given member => find?_write_of_mem distinct
      (write_of_held held fun entry member => writable entry (List.mem_append_left _ member)) member

end Sensor

end Egress
