import Egress.Proofs.Walk
import Egress.Suite

/-!
# What sensors do to an awareness

Running sensors never makes an awareness forget a region, and it changes neither the network nor
the bounds of the tariff.  A sensor leaves the awareness as it was, makes the current region known,
or writes factors under its own name into the tariff.

What a whole run of a suite keeps follows from what each sensor keeps.
-/

namespace Egress

variable {α : Type} [Scalar α]

namespace Awareness

/-- One awareness came from another by discovering regions and writing factors. -/
structure Grows (before after : Awareness α) : Prop where
  network : after.network = before.network
  complete : after.complete = before.complete
  known : ∀ region, before.Knows region → after.Knows region
  baseCosts : after.tariff.baseCosts = before.tariff.baseCosts
  lowest : after.tariff.lowest = before.tariff.lowest
  highest : after.tariff.highest = before.tariff.highest

namespace Grows

variable {first second third : Awareness α}

omit [Scalar α] in
theorem refl (awareness : Awareness α) : Grows awareness awareness :=
  ⟨rfl, rfl, fun _ isKnown => isKnown, rfl, rfl, rfl⟩

omit [Scalar α] in
theorem trans (earlier : Grows first second) (later : Grows second third) : Grows first third where
  network := later.network.trans earlier.network
  complete := later.complete.trans earlier.complete
  known := fun region isKnown => later.known region (earlier.known region isKnown)
  baseCosts := later.baseCosts.trans earlier.baseCosts
  lowest := later.lowest.trans earlier.lowest
  highest := later.highest.trans earlier.highest

theorem sound (grows : Grows first second) (sound : first.Sound) : second.Sound where
  formed := grows.network ▸ sound.formed
  based := by rw [grows.baseCosts, grows.network, sound.based]
  bounded := by
    rcases sound.bounded with ⟨low, high, bounded⟩
    refine ⟨low, high, ?_, ?_, bounded.positive, bounded.ordered, ?_⟩
    · rw [grows.lowest, bounded.lowest]
    · rw [grows.highest, bounded.highest]
    · rw [grows.baseCosts]
      exact bounded.based

omit [Scalar α] in
theorem knows_eq (grows : Grows first second)
    (learnt : ∀ region, second.Knows region → first.Knows region) : second.Knows = first.Knows :=
  funext fun region => propext ⟨learnt region, grows.known region⟩

end Grows

variable {awareness after : Awareness α} {reference : Int} {fresh : Bool}

omit [Scalar α] in
/-- Discovering a region adds it, unless it is known already. -/
theorem discover_cases (discovered : awareness.discover reference = .ok (after, fresh)) :
    awareness.Knows reference ∧ after = awareness ∨
    ¬ awareness.Knows reference ∧ ∃ index : Nat, reference = index ∧
      after = { awareness with discovered := awareness.discovered ++ [index] } := by
  rcases bind_eq_ok.mp discovered with ⟨index, isIndex, rest⟩
  rcases Network.indexOf_eq_ok_iff.mp isIndex with ⟨rfl, inside⟩
  have isKnown : awareness.Knows index ↔
      (awareness.complete || awareness.discovered.contains index) = true := by
    rw [Bool.or_eq_true, List.contains_iff_mem, knows_natCast_iff]
  split at rest
  · rename_i old
    cases rest
    exact Or.inl ⟨isKnown.mpr old, rfl⟩
  · rename_i new
    cases rest
    exact Or.inr ⟨fun old => new (isKnown.mp old), index, rfl, rfl⟩

omit [Scalar α] in
theorem grows_of_discover (discovered : awareness.discover reference = .ok (after, fresh)) :
    Grows awareness after ∧ after.Knows reference := by
  rcases discover_cases discovered with ⟨isKnown, rfl⟩ | ⟨-, index, rfl, rfl⟩
  · exact ⟨.refl _, isKnown⟩
  · refine ⟨⟨rfl, rfl, ?_, rfl, rfl, rfl⟩, Or.inr ?_⟩
    · intro region
      refine Or.imp_right fun member => ?_
      rw [List.map_append]
      exact List.mem_append_left _ member
    · exact List.mem_map.mpr ⟨index, List.mem_append_right _ List.mem_cons_self, rfl⟩

omit [Scalar α] in
theorem discover_of_lt {index : Nat} (inside : index < awareness.network.size) :
    ∃ after fresh, awareness.discover index = .ok (after, fresh) := by
  simp only [discover, Network.indexOf_of_lt inside, bind, Except.bind]
  split
  · exact ⟨_, _, rfl⟩
  · exact ⟨_, _, rfl⟩

end Awareness

namespace Tariff

variable {tariff after : Tariff α} {reference : Int} {sensor : String} {factor : α}

/-- A factor that is written goes into the table of its connection. -/
theorem setFactor_cases (written : tariff.setFactor reference sensor factor = .ok after) :
    ∃ index : Nat, reference = index ∧ after = { tariff with
      factors := tariff.factors.insert index ((tariff.of index).insert sensor factor) } := by
  unfold setFactor at written
  split at written
  · rcases bind_eq_ok.mp written with ⟨index, isIndex, rest⟩
    cases rest
    refine ⟨index, ?_, rfl⟩
    unfold indexOf at isIndex
    split at isIndex
    · cases isIndex
      omega
    · cases isIndex
  · cases written

/-- Writing a factor changes neither the base costs nor the bounds. -/
theorem setFactor_frame (written : tariff.setFactor reference sensor factor = .ok after) :
    after.baseCosts = tariff.baseCosts ∧ after.lowest = tariff.lowest ∧
      after.highest = tariff.highest := by
  rcases setFactor_cases written with ⟨index, -, rfl⟩
  exact ⟨rfl, rfl, rfl⟩

/-- The tables after one write. -/
theorem of_setFactor (written : tariff.setFactor reference sensor factor = .ok after)
    (index : Nat) :
    after.of index =
      if (index : Int) = reference then (tariff.of index).insert sensor factor
      else tariff.of index := by
  rcases setFactor_cases written with ⟨place, rfl, rfl⟩
  unfold of
  dsimp only
  rw [Table.find?_insert]
  by_cases same : place = index
  · subst same
    rw [if_pos rfl, if_pos rfl, Option.getD_some]
  · have apart : ¬ (index : Int) = place := fun equal => same (Int.ofNat.inj equal).symm
    rw [if_neg same, if_neg apart]

/-- A factor is found under the name under which it was written. -/
theorem find?_setFactor (written : tariff.setFactor reference sensor factor = .ok after)
    (index : Nat) (name : String) : (after.of index).find? name =
      if (index : Int) = reference ∧ sensor = name then some factor
      else (tariff.of index).find? name := by
  rw [of_setFactor written]
  by_cases here : (index : Int) = reference
  · rw [if_pos here, Table.find?_insert]
    simp [here]
  · simp [here]

end Tariff

namespace Sensor

variable {σ : Type} {name : String} {entries : List (Int × α)}

/-- Whatever each single write keeps, writing a report keeps. -/
theorem write_keeps (holds : Tariff α → Prop)
    (kept : ∀ entry ∈ entries, ∀ tariff after,
      tariff.setFactor entry.1 name entry.2 = .ok after → holds tariff → holds after)
    {tariff : Tariff α} (before : holds tariff) : holds (write name tariff entries).1 := by
  induction entries generalizing tariff with
  | nil => exact before
  | cons entry rest hypothesis =>
    rcases entry with ⟨reference, factor⟩
    rw [write]
    split
    · rename_i after written
      exact hypothesis (fun other member => kept other (List.mem_cons_of_mem _ member))
        (kept _ List.mem_cons_self tariff after written before)
    · exact before

variable [Outline σ α] {world : World α σ} {agent : Agent α} {awareness : Awareness α}

/-- What executing a sensor leaves: the awareness as it was, or with the current region discovered,
or with the factors of a report in its tariff. -/
theorem execute_cases (sensor : Sensor α) (world : World α σ) (agent : Agent α)
    (awareness : Awareness α) :
    (sensor.execute world agent awareness).1 = awareness ∨
    (∃ region fresh, currentRegion world agent awareness = .ok region ∧
      awareness.discover region.index =
        .ok ((sensor.execute world agent awareness).1, fresh)) ∨
    ∃ report factors, sensor.observe world agent awareness = .ok report ∧
      factorsIn sensor.name report = .ok factors ∧
      (sensor.execute world agent awareness).1 =
        { awareness with tariff := (write sensor.name awareness.tariff factors).1 } := by
  unfold execute
  split
  · split
    · exact Or.inl rfl
    · rename_i region located
      split
      · exact Or.inl rfl
      · rename_i after fresh discovered
        exact Or.inr (Or.inl ⟨region, fresh, located, discovered⟩)
  · split
    · exact Or.inl rfl
    · rename_i report observed
      split
      · exact Or.inl rfl
      · rename_i factors read
        exact Or.inr (Or.inr ⟨report, factors, observed, read, rfl⟩)

theorem execute_grows (sensor : Sensor α) (world : World α σ) (agent : Agent α)
    (awareness : Awareness α) : awareness.Grows (sensor.execute world agent awareness).1 := by
  rcases execute_cases sensor world agent awareness with same |
    ⟨region, fresh, -, discovered⟩ | ⟨report, factors, -, -, written⟩
  · rw [same]
    exact .refl awareness
  · exact (Awareness.grows_of_discover discovered).1
  · rw [written]
    have kept : (write sensor.name awareness.tariff factors).1.baseCosts =
          awareness.tariff.baseCosts ∧
        (write sensor.name awareness.tariff factors).1.lowest = awareness.tariff.lowest ∧
        (write sensor.name awareness.tariff factors).1.highest = awareness.tariff.highest := by
      apply write_keeps fun tariff => tariff.baseCosts = awareness.tariff.baseCosts ∧
        tariff.lowest = awareness.tariff.lowest ∧ tariff.highest = awareness.tariff.highest
      · rintro entry - tariff after wrote ⟨costs, lowest, highest⟩
        rcases Tariff.setFactor_frame wrote with ⟨sameCosts, sameLowest, sameHighest⟩
        exact ⟨sameCosts.trans costs, sameLowest.trans lowest, sameHighest.trans highest⟩
      · exact ⟨rfl, rfl, rfl⟩
    exact ⟨rfl, rfl, fun _ isKnown => isKnown, kept.1, kept.2.1, kept.2.2⟩

end Sensor

namespace Suite

variable {σ : Type} [Outline σ α] {world : World α σ} {agent : Agent α}

/-- Whatever each sensor keeps, a run of them keeps. -/
theorem runAll_keeps (holds : Awareness α → Prop) {sensors : List (Sensor α)}
    (kept : ∀ sensor ∈ sensors, ∀ awareness, holds awareness →
      holds (sensor.execute world agent awareness).1)
    {awareness : Awareness α} (before : holds awareness) :
    holds (runAll world agent awareness sensors).awareness := by
  induction sensors generalizing awareness with
  | nil => exact before
  | cons sensor rest hypothesis =>
    have first := kept sensor List.mem_cons_self awareness before
    have others := fun other member => kept other (List.mem_cons_of_mem sensor member)
    rw [runAll]
    split
    · rename_i after written executed
      rw [executed] at first
      exact hypothesis others first
    · rename_i after fault executed
      rw [executed] at first
      split
      · exact hypothesis others first
      · exact first

/-- What escapes from some sensors ends the run. -/
theorem runAll_append_of_escaped {awareness : Awareness α} {early late : List (Sensor α)}
    {fault : Fault α}
    (escaped : (runAll world agent awareness early).escaped = some fault) :
    runAll world agent awareness (early ++ late) = runAll world agent awareness early := by
  induction early generalizing awareness with
  | nil => cases escaped
  | cons sensor rest hypothesis =>
    rw [List.cons_append, runAll, runAll]
    rw [runAll] at escaped
    rcases executed : sensor.execute world agent awareness with ⟨after, failed | count⟩
    · rw [executed] at escaped
      dsimp only at escaped ⊢
      split
      · rename_i skips
        rw [if_pos skips] at escaped
        rw [hypothesis escaped]
      · rfl
    · rw [executed] at escaped
      exact hypothesis escaped

theorem run_grows (suite : Suite α) (world : World α σ) (agent : Agent α)
    (awareness : Awareness α) : awareness.Grows (suite.run world agent awareness).awareness :=
  runAll_keeps awareness.Grows
    (fun sensor _ _ grown => grown.trans (sensor.execute_grows world agent _)) (.refl awareness)

/-- A suite that is run for an agent in a known region discovers nothing. -/
theorem run_discovered (suite : Suite α) {awareness : Awareness α} {region : Region α}
    (located : awareness.network.regionFor world.building agent.position agent.floor = .ok region)
    (isKnown : awareness.Knows region.index) :
    (suite.run world agent awareness).awareness.discovered = awareness.discovered := by
  have kept : (suite.run world agent awareness).awareness.network = awareness.network ∧
      (suite.run world agent awareness).awareness.complete = awareness.complete ∧
      (suite.run world agent awareness).awareness.discovered = awareness.discovered := by
    apply runAll_keeps fun after : Awareness α => after.network = awareness.network ∧
      after.complete = awareness.complete ∧ after.discovered = awareness.discovered
    · rintro sensor - middle ⟨network, complete, discovered⟩
      rcases sensor.execute_cases world agent middle with same |
        ⟨here, fresh, isHere, found⟩ | ⟨report, factors, -, -, written⟩
      · rw [same]
        exact ⟨network, complete, discovered⟩
      · unfold Sensor.currentRegion at isHere
        rw [network] at isHere
        cases isHere.symm.trans located
        have stillKnown : middle.Knows region.index := by
          unfold Awareness.Knows
          rw [complete, discovered]
          exact isKnown
        rcases Awareness.discover_cases found with ⟨-, same⟩ | ⟨unknown, -⟩
        · rw [same]
          exact ⟨network, complete, discovered⟩
        · exact absurd stillKnown unknown
      · rw [written]
        exact ⟨network, complete, discovered⟩
    · exact ⟨rfl, rfl, rfl⟩
  exact kept.2.2

end Suite

end Egress
