import Egress.Proofs.Rectangle
import Egress.Proofs.Tariff

/-!
# The order of sensors

Sensors of one suite have distinct names.  What a sensor reports depends on the network, the agent
and the conditions, and what it writes goes under its own name; only discovery touches the regions
that are known.  So a sensor is not aware of the others, and running them in another order leaves
the same factors, the same regions and the same failures.

For each name there is a part of the awareness that belongs to it.  Two awarenesses are alike for a
name if they agree on this part and on what no sensor changes.  A sensor maps awarenesses that are
alike for its name to such awarenesses, and leaves an awareness alike for every other name.

The factors of one connection may end up listed in another order.  Their product is the same if
factors may be exchanged, as they may in exact arithmetic and not always in doubles.
-/

namespace Egress

variable {α : Type} [Scalar α] {name : String} {first second third : Awareness α}

namespace Awareness

/-- Two awarenesses agree on what belongs to a name and on what no sensor changes. -/
structure Alike (name : String) (first second : Awareness α) : Prop where
  network : second.network = first.network
  complete : second.complete = first.complete
  baseCosts : second.tariff.baseCosts = first.tariff.baseCosts
  lowest : second.tariff.lowest = first.tariff.lowest
  highest : second.tariff.highest = first.tariff.highest
  found : ∀ index, (second.tariff.of index).find? name = (first.tariff.of index).find? name
  /-- The known regions belong to the name of discovery. -/
  discovered : name = (Sensor.discovery : Sensor α).name → second.discovered = first.discovered

namespace Alike

omit [Scalar α] in
theorem refl (name : String) (awareness : Awareness α) : Alike name awareness awareness :=
  ⟨rfl, rfl, rfl, rfl, rfl, fun _ => rfl, fun _ => rfl⟩

omit [Scalar α] in
theorem symm (alike : Alike name first second) : Alike name second first :=
  ⟨alike.network.symm, alike.complete.symm, alike.baseCosts.symm, alike.lowest.symm,
    alike.highest.symm, fun index => (alike.found index).symm,
    fun isDiscovery => (alike.discovered isDiscovery).symm⟩

omit [Scalar α] in
theorem trans (earlier : Alike name first second) (later : Alike name second third) :
    Alike name first third where
  network := later.network.trans earlier.network
  complete := later.complete.trans earlier.complete
  baseCosts := later.baseCosts.trans earlier.baseCosts
  lowest := later.lowest.trans earlier.lowest
  highest := later.highest.trans earlier.highest
  found := fun index => (later.found index).trans (earlier.found index)
  discovered := fun isDiscovery =>
    (later.discovered isDiscovery).trans (earlier.discovered isDiscovery)

omit [Scalar α] in
/-- What grew from like awarenesses is alike if what belongs to the name is the same. -/
theorem grown {before after : Awareness α} (alike : Alike name first second)
    (left : first.Grows before) (right : second.Grows after)
    (found : ∀ index, (after.tariff.of index).find? name = (before.tariff.of index).find? name)
    (discovered : name = (Sensor.discovery : Sensor α).name →
      after.discovered = before.discovered) : Alike name before after where
  network := by rw [left.network, right.network, alike.network]
  complete := by rw [left.complete, right.complete, alike.complete]
  baseCosts := by rw [left.baseCosts, right.baseCosts, alike.baseCosts]
  lowest := by rw [left.lowest, right.lowest, alike.lowest]
  highest := by rw [left.highest, right.highest, alike.highest]
  found := found
  discovered := discovered

end Alike

end Awareness

namespace Tariff

variable {before after : Tariff α} {reference : Int} {sensor : String} {factor : α}

/-- Whether a factor can be written, and the fault if it cannot, does not depend on the factors
written before. -/
theorem setFactor_alike (sameCosts : after.baseCosts = before.baseCosts) (reference : Int)
    (sensor : String) (factor : α) :
    (∃ fault, before.setFactor reference sensor factor = .error fault ∧
      after.setFactor reference sensor factor = .error fault) ∨
    ∃ left right, before.setFactor reference sensor factor = .ok left ∧
      after.setFactor reference sensor factor = .ok right := by
  unfold setFactor indexOf
  rw [sameCosts]
  split
  · split
    · exact Or.inr ⟨_, _, rfl, rfl⟩
    · exact Or.inl ⟨_, rfl, rfl⟩
  · exact Or.inl ⟨_, rfl, rfl⟩

/-- Weights are equal if the same factors are found and factors may be exchanged in a product. -/
theorem effective_congr (sameCosts : after.baseCosts = before.baseCosts)
    (sameLowest : after.lowest = before.lowest) (sameHighest : after.highest = before.highest)
    (sameFound : ∀ index sensor,
      (after.of index).find? sensor = (before.of index).find? sensor)
    (exchange : ∀ a b c : α, a * b * c = a * c * b) (reference : Int) :
    after.effective reference = before.effective reference := by
  have sameProduct : ∀ index base, after.product index base = before.product index base := by
    intro index base
    unfold product Table.values
    refine ((Table.perm_of_find? (sameFound index)).map Prod.snd).foldl_eq' ?_ base
    intro factor _ other _ sofar
    exact exchange sofar factor other
  unfold effective indexOf
  simp only [sameCosts, sameLowest, sameHighest, sameProduct]

end Tariff

namespace Sensor

variable {σ : Type} [Outline σ α] {world : World α σ} {agent : Agent α}

omit [Outline σ α] in
/-- A report is written alike wherever the factors under its name are alike. -/
theorem write_alike {before after : Tariff α} (sameCosts : after.baseCosts = before.baseCosts)
    (sameFound : ∀ index, (after.of index).find? name = (before.of index).find? name)
    (entries : List (Int × α)) :
    (write name after entries).2 = (write name before entries).2 ∧
      ∀ index, ((write name after entries).1.of index).find? name =
        ((write name before entries).1.of index).find? name := by
  induction entries generalizing before after with
  | nil => exact ⟨rfl, sameFound⟩
  | cons entry rest hypothesis =>
    rcases entry with ⟨reference, factor⟩
    rcases Tariff.setFactor_alike sameCosts reference name factor with
      ⟨fault, refused, alsoRefused⟩ | ⟨left, right, written, alsoWritten⟩
    · simpa only [write, refused, alsoRefused, true_and] using sameFound
    · simp only [write, written, alsoWritten]
      apply hypothesis
      · rcases Tariff.setFactor_cases written with ⟨-, -, rfl⟩
        rcases Tariff.setFactor_cases alsoWritten with ⟨-, -, rfl⟩
        exact sameCosts
      · intro index
        rw [Tariff.find?_setFactor written, Tariff.find?_setFactor alsoWritten, sameFound]

/-- A sensor sees nothing of an awareness but its network. -/
theorem observe_congr (same : second.network = first.network) (sensor : Sensor α) :
    sensor.observe world agent second = sensor.observe world agent first := by
  cases sensor with
  | blank => rfl
  | discovery => rfl
  | custom name report => rfl
  | category settings => simp only [observe, currentRegion, same]
  | history settings => simp only [observe, currentRegion, same]
  | smoke field settings => simp only [observe, currentRegion, same]
  | blocked field settings => simp only [observe, currentRegion, same]

/-- Discovery neither reads nor writes factors. -/
theorem execute_discovery (world : World α σ) (agent : Agent α) (awareness : Awareness α)
    (tariff : Tariff α) :
    discovery.execute world agent { awareness with tariff } =
      ({ (discovery.execute world agent awareness).1 with tariff },
        (discovery.execute world agent awareness).2) := by
  simp only [execute, currentRegion]
  cases awareness.network.regionFor world.building agent.position agent.floor with
  | error fault => rfl
  | ok region =>
    simp only [Awareness.discover]
    cases awareness.network.indexOf region.index with
    | error fault => rfl
    | ok index =>
      by_cases isKnown : (awareness.complete || awareness.discovered.contains index) = true
      · simp only [bind, Except.bind, if_pos isKnown]
        rfl
      · simp only [bind, Except.bind, if_neg isKnown]
        rfl

theorem tariff_discovery (awareness : Awareness α) :
    (discovery.execute world agent awareness).1.tariff = awareness.tariff :=
  congrArg (fun result => result.1.tariff)
    (execute_discovery world agent awareness awareness.tariff)

/-- What becomes of the factors that a sensor observed: they are written, if they could be read. -/
def written (name : String) (awareness : Awareness α) :
    Except (Fault α) (List (Int × α)) → Awareness α × Except (Fault α) Nat
  | .error fault => (awareness, .error fault)
  | .ok factors =>
    ({ awareness with tariff := (write name awareness.tariff factors).1 },
      (write name awareness.tariff factors).2.map fun _ => factors.length)

theorem execute_eq_written {sensor : Sensor α} (writer : sensor ≠ .discovery) (world : World α σ)
    (agent : Agent α) (awareness : Awareness α) :
    sensor.execute world agent awareness = written sensor.name awareness
      ((sensor.observe world agent awareness).bind (factorsIn sensor.name)) := by
  unfold execute
  split
  · exact absurd rfl writer
  · cases sensor.observe world agent awareness with
    | error fault => rfl
    | ok report =>
      dsimp only [Except.bind]
      cases factorsIn sensor.name report with
      | error fault => rfl
      | ok factors => rfl

/-- A sensor other than discovery only writes what it observed. -/
theorem execute_writer {sensor : Sensor α} (writer : sensor ≠ .discovery) (world : World α σ)
    (agent : Agent α) (awareness : Awareness α) :
    (∃ fault, ∀ other : Awareness α, other.network = awareness.network →
      sensor.execute world agent other = (other, .error fault)) ∨
    ∃ factors, ∀ other : Awareness α, other.network = awareness.network →
      sensor.execute world agent other =
        ({ other with tariff := (write sensor.name other.tariff factors).1 },
          (write sensor.name other.tariff factors).2.map fun _ => factors.length) := by
  cases read : (sensor.observe world agent awareness).bind (factorsIn sensor.name) with
  | error fault =>
    refine Or.inl ⟨fault, fun other same => ?_⟩
    rw [execute_eq_written writer, observe_congr same, read]
    rfl
  | ok factors =>
    refine Or.inr ⟨factors, fun other same => ?_⟩
    rw [execute_eq_written writer, observe_congr same, read]
    rfl

/-- Executing a sensor leaves alone what belongs to other names. -/
theorem execute_others (sensor : Sensor α) (different : name ≠ sensor.name) (world : World α σ)
    (agent : Agent α) (awareness : Awareness α) :
    Awareness.Alike name awareness (sensor.execute world agent awareness).1 := by
  refine (Awareness.Alike.refl name awareness).grown (.refl awareness)
    (sensor.execute_grows world agent awareness) ?_ ?_
  · by_cases isDiscovery : sensor = .discovery
    · subst isDiscovery
      rw [tariff_discovery]
      exact fun _ => rfl
    · rcases execute_writer isDiscovery world agent awareness with ⟨fault, failed⟩ |
        ⟨factors, written⟩
      · rw [failed awareness rfl]
        exact fun _ => rfl
      · rw [written awareness rfl]
        refine write_keeps (fun tariff => ∀ index, (tariff.of index).find? name =
          (awareness.tariff.of index).find? name) ?_ fun _ => rfl
        intro entry _ tariff after wrote before index
        rw [Tariff.find?_setFactor wrote, if_neg fun both => different both.2.symm, before]
  · intro same
    have writer : sensor ≠ .discovery := by
      rintro rfl
      exact different same
    rcases execute_writer writer world agent awareness with ⟨fault, failed⟩ | ⟨factors, written⟩
    · rw [failed awareness rfl]
    · rw [written awareness rfl]

/-- Executing a sensor gives the same result and leaves the same under its name, wherever the
awareness is alike. -/
theorem execute_alike (sensor : Sensor α) (alike : Awareness.Alike sensor.name first second)
    (world : World α σ) (agent : Agent α) :
    (sensor.execute world agent second).2 = (sensor.execute world agent first).2 ∧
      Awareness.Alike sensor.name (sensor.execute world agent first).1
        (sensor.execute world agent second).1 := by
  have frame := alike.grown (sensor.execute_grows world agent first)
    (sensor.execute_grows world agent second)
  by_cases isDiscovery : sensor = .discovery
  · subst isDiscovery
    have same : second = { first with tariff := second.tariff } := by
      rcases second with ⟨network, complete, discovered, tariff⟩
      cases alike.network
      cases alike.complete
      cases alike.discovered rfl
      rfl
    have result := execute_discovery world agent first second.tariff
    rw [← same] at result
    refine ⟨by rw [result], frame ?_ fun _ => by rw [result]⟩
    rw [result, tariff_discovery]
    exact alike.found
  · rcases execute_writer isDiscovery world agent first with ⟨fault, failed⟩ | ⟨factors, written⟩
    · rw [failed first rfl, failed second alike.network]
      exact ⟨rfl, alike⟩
    · rcases write_alike alike.baseCosts alike.found factors with ⟨sameResult, sameFound⟩
      rw [written first rfl, written second alike.network] at frame ⊢
      exact ⟨by rw [sameResult], frame sameFound alike.discovered⟩

end Sensor

namespace Suite

variable {σ : Type} [Outline σ α] {world : World α σ} {agent : Agent α} {sensors : List (Sensor α)}

/-- The failure of a sensor that is executed first. -/
def failure (world : World α σ) (agent : Agent α) (awareness : Awareness α) (sensor : Sensor α) :
    Option (String × Fault α) :=
  match (sensor.execute world agent awareness).2 with
  | .ok _ => none
  | .error fault => some (sensor.name, fault)

/-- A run leaves alone what belongs to names outside the suite. -/
theorem runAll_others (foreign : name ∉ sensors.map Sensor.name) (awareness : Awareness α) :
    Awareness.Alike name awareness (runAll world agent awareness sensors).awareness := by
  apply runAll_keeps (Awareness.Alike name awareness)
  · intro sensor member current alike
    refine alike.trans (sensor.execute_others ?_ world agent current)
    rintro rfl
    exact foreign (List.mem_map_of_mem member)
  · exact .refl name awareness

/-- What the first sensor of a suite leaves shows in no other sensor of it. -/
theorem execute_after {sensor : Sensor α} {rest : List (Sensor α)}
    (distinct : ((sensor :: rest).map Sensor.name).Nodup) (world : World α σ) (agent : Agent α)
    (awareness : Awareness α) :
    ∀ other ∈ rest,
      (other.execute world agent (sensor.execute world agent awareness).1).2 =
        (other.execute world agent awareness).2 ∧
      Awareness.Alike other.name (other.execute world agent awareness).1
        (other.execute world agent (sensor.execute world agent awareness).1).1 := by
  intro other member
  have different : other.name ≠ sensor.name := fun same =>
    (List.nodup_cons.mp distinct).1 (same ▸ List.mem_map_of_mem member)
  exact other.execute_alike (sensor.execute_others different world agent awareness) world agent

/-- Every sensor of a run does what it would do if it were executed first. -/
theorem runAll_spec (distinct : (sensors.map Sensor.name).Nodup) (world : World α σ)
    (agent : Agent α) (awareness : Awareness α) :
    ((runAll world agent awareness sensors).escaped = none ↔
      ∀ sensor ∈ sensors, ∀ failed ∈ failure world agent awareness sensor,
        failed.2.skipsSensor = true) ∧
    ((runAll world agent awareness sensors).escaped = none →
      (runAll world agent awareness sensors).failures =
        sensors.filterMap (failure world agent awareness) ∧
      ∀ sensor ∈ sensors, Awareness.Alike sensor.name
        (sensor.execute world agent awareness).1
        (runAll world agent awareness sensors).awareness) := by
  induction sensors generalizing awareness with
  | nil => simp [runAll]
  | cons sensor rest hypothesis =>
    have later := execute_after distinct world agent awareness
    rw [List.map_cons, List.nodup_cons] at distinct
    rcases executed : sensor.execute world agent awareness with ⟨after, result⟩
    rw [executed] at later
    have sameFailure : ∀ other ∈ rest,
        failure world agent after other = failure world agent awareness other := by
      intro other member
      rw [failure, failure, (later other member).1]
    rcases hypothesis distinct.2 after with ⟨contained, others⟩
    rw [forall₂_congr fun other member => by rw [sameFailure other member]] at contained
    rw [List.filterMap_congr sameFailure] at others
    have alikeAfter : (runAll world agent after rest).escaped = none →
        ∀ other ∈ sensor :: rest, Awareness.Alike other.name
          (other.execute world agent awareness).1 (runAll world agent after rest).awareness := by
      intro whole other member
      rcases List.mem_cons.mp member with rfl | isLater
      · rw [executed]
        exact runAll_others distinct.1 after
      · exact (later other isLater).2.trans ((others whole).2 other isLater)
    rw [List.forall_mem_cons, List.filterMap_cons]
    cases result with
    | ok count =>
      have succeeded : failure world agent awareness sensor = none := by
        rw [failure, executed]
      simp only [runAll, executed, succeeded]
      exact ⟨by simpa using contained, fun whole => ⟨(others whole).1, alikeAfter whole⟩⟩
    | error fault =>
      have failed : failure world agent awareness sensor = some (sensor.name, fault) := by
        rw [failure, executed]
      by_cases skips : fault.skipsSensor = true
      · simp only [runAll, executed, failed, if_pos skips]
        refine ⟨by simpa [skips] using contained, fun whole => ⟨?_, alikeAfter whole⟩⟩
        rw [(others whole).1]
      · simp [runAll, executed, failed, skips]

/-- If a run of a suite ends of itself, so does a run of its sensors in any other order.  It leaves
the same factors, the same regions and the same failures, and if factors may be exchanged in a
product, the same weights. -/
theorem run_perm {suite other : Suite α} (distinct : suite.names.Nodup)
    (reordered : other.sensors.Perm suite.sensors) (awareness : Awareness α)
    (contained : (suite.run world agent awareness).escaped = none) :
    (other.run world agent awareness).escaped = none ∧
    (other.run world agent awareness).failures.Perm
      (suite.run world agent awareness).failures ∧
    (other.run world agent awareness).awareness.complete =
      (suite.run world agent awareness).awareness.complete ∧
    (other.run world agent awareness).awareness.discovered =
      (suite.run world agent awareness).awareness.discovered ∧
    (other.run world agent awareness).awareness.tariff.entries.Perm
      (suite.run world agent awareness).awareness.tariff.entries ∧
    ((∀ a b c : α, a * b * c = a * c * b) → ∀ reference,
      (other.run world agent awareness).awareness.tariff.effective reference =
        (suite.run world agent awareness).awareness.tariff.effective reference) := by
  have alsoDistinct : (other.sensors.map Sensor.name).Nodup :=
    (reordered.map Sensor.name).nodup_iff.mpr distinct
  rcases runAll_spec distinct world agent awareness with ⟨whole, first⟩
  rcases runAll_spec alsoDistinct world agent awareness with ⟨alsoWhole, second⟩
  have alsoContained : (other.run world agent awareness).escaped = none :=
    alsoWhole.mpr fun sensor member => whole.mp contained sensor (reordered.mem_iff.mp member)
  rcases first contained with ⟨failures, left⟩
  rcases second alsoContained with ⟨alsoFailures, right⟩
  have alike : ∀ name, Awareness.Alike name (suite.run world agent awareness).awareness
      (other.run world agent awareness).awareness := by
    intro name
    by_cases member : name ∈ suite.sensors.map Sensor.name
    · rcases List.mem_map.mp member with ⟨sensor, isSensor, rfl⟩
      exact (left sensor isSensor).symm.trans (right sensor (reordered.mem_iff.mpr isSensor))
    · refine (runAll_others member awareness).symm.trans (runAll_others ?_ awareness)
      rwa [(reordered.map Sensor.name).mem_iff]
  have frame := alike (Sensor.discovery : Sensor α).name
  refine ⟨alsoContained, ?_, frame.complete, frame.discovered rfl, ?_, ?_⟩
  · unfold run
    rw [failures, alsoFailures]
    exact reordered.filterMap _
  · rw [List.perm_ext_iff_of_nodup (Tariff.entries_nodup _) (Tariff.entries_nodup _)]
    rintro ⟨index, sensor, factor⟩
    rw [Tariff.mem_entries_iff, Tariff.mem_entries_iff, (alike sensor).found]
  · intro exchange
    exact Tariff.effective_congr frame.baseCosts frame.lowest frame.highest
      (fun index sensor => (alike sensor).found index) exchange

/-- The usual sensors, one from outside that judges a door, and one that is broken. -/
def mixed : Suite Rat where
  sensors := (standard (some 0) .defaults).sensors ++
    [.custom "camera" (.factors (.ofList [(1, 3), (2, 1 / 2)])),
      .custom "detector" (.fault (.reported .planning "no signal"))]
  verbose := false

/-- In the row, the same sensors in the opposite order. -/
theorem run_perm_in_row :
    let run := mixed.run Guidance.calmRow Guidance.walker (.inRow false [])
    let back : Suite Rat := ⟨mixed.sensors.reverse, false⟩
    let other := back.run Guidance.calmRow Guidance.walker (.inRow false [])
    other.escaped = none ∧ other.failures.Perm run.failures ∧
      other.awareness.complete = run.awareness.complete ∧
      other.awareness.discovered = run.awareness.discovered ∧
      other.awareness.tariff.entries.Perm run.awareness.tariff.entries ∧
      ∀ reference, other.awareness.tariff.effective reference =
        run.awareness.tariff.effective reference := by
  have contained : (mixed.run Guidance.calmRow Guidance.walker (.inRow false [])).escaped = none :=
    Option.isNone_iff_eq_none.mp (by decide +kernel)
  have reordered : (⟨mixed.sensors.reverse, false⟩ : Suite Rat).sensors.Perm mixed.sensors :=
    List.reverse_perm mixed.sensors
  rcases run_perm (by decide) reordered (.inRow false []) contained with
    ⟨ended, failures, complete, discovered, entries, weights⟩
  exact ⟨ended, failures, complete, discovered, entries,
    weights fun a b c => mul_right_comm a b c⟩

end Suite

end Egress
