import Egress.Proofs.Isolation

/-!
# Running sensors again

A sensor that is executed again reports what it reported before, since neither the agent nor the
conditions have changed, and no sensor has written under its name in between.  Every factor is then
written where it stands already, and the region in which the agent stands is known already.  So a
second run of a suite ends like the first and leaves everything as it is: the factors, their order
and hence the weights, to the last bit.

This holds of all runs.  Where a run ends midway, in the suite or even in the report of a sensor,
the second run ends at the same place.
-/

namespace Egress

variable {α σ : Type} [Scalar α]

namespace Tariff

variable {tariff after : Tariff α} {reference : Int} {name : String} {factor : α}

/-- Writing a factor where it stands already changes nothing. -/
theorem setFactor_of_find? {index : Nat}
    (written : tariff.setFactor index name factor = .ok after)
    (found : (tariff.of index).find? name = some factor) : after = tariff := by
  rcases setFactor_cases written with ⟨place, same, rfl⟩
  cases Int.ofNat.inj same
  have present : tariff.factors.find? index = some (tariff.of index) := by
    cases isTable : tariff.factors.find? index with
    | none =>
      rw [of, isTable] at found
      cases found
    | some table => rw [of, isTable, Option.getD_some]
  rw [Table.insert_of_find? found, Table.insert_of_find? present]

end Tariff

namespace Sensor

variable {tariff final : Tariff α} {name : String} {entries : List (Int × α)}

/-- A report is read connection by connection. -/
theorem keys_factorsIn {report : Table Int (Value α)}
    (read : factorsIn name report = .ok entries) : entries.map Prod.fst = report.keys := by
  have inOrder : List.Forall₂ (fun factor entry => factor.1 = entry.1) entries report.entries := by
    refine (mapM_eq_ok_iff.mp read).flip.imp fun factor entry said => ?_
    rcases bind_eq_ok.mp said with ⟨number, -, rest⟩
    split at rest
    · cases rest
      rfl
    · cases rest
  rw [Table.keys, ← List.forall₂_eq_eq_eq, List.forall₂_map_left_iff, List.forall₂_map_right_iff]
  exact inOrder

/-- Whoever writes a report again writes what stands there already, as far as the report can be
written. -/
theorem write_again (distinct : (entries.map Prod.fst).Nodup)
    (sameCosts : final.baseCosts = tariff.baseCosts)
    (sameFound : ∀ index, (final.of index).find? name =
      ((write name tariff entries).1.of index).find? name) :
    write name final entries = (final, (write name tariff entries).2) := by
  induction entries generalizing tariff with
  | nil => rfl
  | cons entry rest hypothesis =>
    rcases entry with ⟨reference, factor⟩
    rw [List.map_cons, List.nodup_cons] at distinct
    rcases Tariff.setFactor_alike sameCosts reference name factor with
      ⟨fault, refused, alsoRefused⟩ | ⟨after, again, written, alsoWritten⟩
    · simp only [write, refused, alsoRefused]
    · simp only [write, written] at sameFound ⊢
      rcases Tariff.setFactor_cases written with ⟨index, rfl, -⟩
      have stands : (final.of index).find? name = some factor := by
        rw [sameFound, find?_write_of_notMem fun _ => distinct.1, Tariff.find?_setFactor written,
          if_pos ⟨rfl, rfl⟩]
      cases Tariff.setFactor_of_find? alsoWritten stands
      simp only [alsoWritten]
      exact hypothesis distinct.2 (sameCosts.trans (Tariff.setFactor_frame written).1.symm)
        sameFound

variable [Outline σ α] {world : World α σ} {agent : Agent α} {awareness after : Awareness α}

/-- Discovery finds nothing new where the region that it left known is known. -/
theorem discovery_again (world : World α σ) (agent : Agent α)
    (alike : Awareness.Alike (Sensor.discovery : Sensor α).name
      (discovery.execute world agent awareness).1 after) :
    discovery.execute world agent after =
      (after, (discovery.execute world agent awareness).2) := by
  have sameNetwork : after.network = awareness.network :=
    alike.network.trans (discovery.execute_grows world agent awareness).network
  have sameRegion : currentRegion world agent after = currentRegion world agent awareness := by
    unfold currentRegion
    rw [sameNetwork]
  cases located : currentRegion world agent awareness with
  | error fault => simp only [execute, sameRegion, located]
  | ok region =>
    cases isIndex : awareness.network.indexOf region.index with
    | error fault =>
      have failed : ∀ current : Awareness α, current.network = awareness.network →
          current.discover region.index = .error fault := by
        intro current same
        unfold Awareness.discover
        rw [same, isIndex]
        rfl
      simp only [execute, sameRegion, located, failed awareness rfl, failed after sameNetwork]
    | ok index =>
      have inside : region.index < awareness.network.size := by
        rcases Network.indexOf_eq_ok_iff.mp isIndex with ⟨same, inside⟩
        exact Int.ofNat.inj same ▸ inside
      rcases Awareness.discover_of_lt inside with ⟨found, fresh, discovered⟩
      rcases Awareness.discover_of_lt (sameNetwork ▸ inside) with ⟨again, old, rediscovered⟩
      simp only [execute, located, discovered] at alike
      have isKnown : after.Knows region.index := by
        unfold Awareness.Knows
        rw [alike.complete, alike.discovered rfl]
        exact (Awareness.grows_of_discover discovered).2
      rcases Awareness.discover_cases rediscovered with ⟨-, rfl⟩ | ⟨unknown, -⟩
      · simp only [execute, sameRegion, located, discovered, rediscovered]
      · exact absurd isKnown unknown

/-- A sensor that is executed again ends as before and changes nothing, if nothing has changed that
belongs to its name. -/
theorem execute_again (sensor : Sensor α) (world : World α σ) (agent : Agent α)
    (alike : Awareness.Alike sensor.name (sensor.execute world agent awareness).1 after) :
    sensor.execute world agent after = (after, (sensor.execute world agent awareness).2) := by
  by_cases isDiscovery : sensor = .discovery
  · subst isDiscovery
    exact discovery_again world agent alike
  have grows := sensor.execute_grows world agent awareness
  have sameNetwork := alike.network.trans grows.network
  have sameCosts := alike.baseCosts.trans grows.baseCosts
  rw [execute_eq_written isDiscovery] at alike
  rw [execute_eq_written isDiscovery, execute_eq_written isDiscovery, observe_congr sameNetwork]
  cases read : (sensor.observe world agent awareness).bind (factorsIn sensor.name) with
  | error fault => rfl
  | ok factors =>
    rcases bind_eq_ok.mp read with ⟨report, -, readFrom⟩
    have distinct : (factors.map Prod.fst).Nodup := keys_factorsIn readFrom ▸ report.keys_nodup
    rw [read] at alike
    simp only [written, write_again distinct sameCosts alike.found]

end Sensor

namespace Suite

variable [Outline σ α] {world : World α σ} {agent : Agent α} {sensors : List (Sensor α)}

theorem runAll_again (distinct : (sensors.map Sensor.name).Nodup) (awareness : Awareness α) :
    runAll world agent (runAll world agent awareness sensors).awareness sensors =
      runAll world agent awareness sensors := by
  induction sensors generalizing awareness with
  | nil => rfl
  | cons sensor rest hypothesis =>
    rcases List.nodup_cons.mp distinct with ⟨foreign, apart⟩
    rcases executed : sensor.execute world agent awareness with ⟨after, result⟩
    have untouched : Awareness.Alike sensor.name (sensor.execute world agent awareness).1
        (runAll world agent after rest).awareness := by
      rw [executed]
      exact runAll_others foreign after
    have again := sensor.execute_again world agent untouched
    rw [executed] at again
    cases result with
    | ok count =>
      simp only [runAll, executed, again]
      exact hypothesis apart after
    | error fault =>
      by_cases skips : fault.skipsSensor = true
      · simp only [runAll, executed, again, if_pos skips, hypothesis apart after]
      · have atOnce := sensor.execute_again world agent
          (.refl sensor.name (sensor.execute world agent awareness).1)
        rw [executed] at atOnce
        simp only [runAll, executed, atOnce, if_neg skips]

/-- A suite that is run again ends as it did before, with the same failures and the same fault if
there was one, and leaves what is known and the whole tariff as they are. -/
theorem run_again {suite : Suite α} (distinct : suite.names.Nodup) (world : World α σ)
    (agent : Agent α) (awareness : Awareness α) :
    suite.run world agent (suite.run world agent awareness).awareness =
      suite.run world agent awareness :=
  runAll_again distinct awareness

/-- In the row, a run that is ended midway through a report, and then another. -/
theorem run_again_in_row :
    let run := flawed.run Guidance.calmRow Guidance.walker (.inRow false [])
    flawed.names.Nodup ∧ run.escaped.isSome = true ∧ run.awareness.tariff.entries ≠ [] ∧
      flawed.run Guidance.calmRow Guidance.walker run.awareness = run := by
  have distinct : flawed.names.Nodup := by decide
  exact ⟨distinct, by decide +kernel, by decide +kernel,
    run_again distinct Guidance.calmRow Guidance.walker (.inRow false [])⟩

end Suite

end Egress
