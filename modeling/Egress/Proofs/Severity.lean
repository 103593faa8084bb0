import Egress.Proofs.Assessment
import Egress.Proofs.Comparison

/-!
# Worse conditions

Two runs of the usual sensors start from the same awareness and see the same agent in the same
building, but in the second run smoke is nowhere thinner and no door is open that was blocked in the
first.  Then no door is cheaper after the second run, and neither is any way: an agent reaches the
same regions, and at no lower cost.

Only two sensors read the conditions, and the factors that they owe grow with them: smoke counts by
a scale that is not negative, and a blocked door makes nothing cheaper if its factor is one or more.
Factors that were written earlier, on other doors or by sensors outside the suite, are the same in
both runs.  So are those of an agent that stands nowhere, and of a run that ends early because the
settings do not tell how far an agent remembers.
-/

namespace Egress

open Scalar

variable {σ : Type}

/-- Smoke is nowhere denser, and no door is blocked that is not blocked in the other conditions. -/
structure Conditions.Milder (first second : Conditions Rat) : Prop where
  thinner : ∀ region, (first.smoke.find? region).getD zero ≤ (second.smoke.find? region).getD zero
  opener : ∀ index ∈ first.blocked, index ∈ second.blocked

/-! ## What is owed -/

namespace Rates

variable {rates : Rates Rat} {first second : Conditions Rat}

theorem smokeDue_le (nonneg : 0 ≤ rates.smokeScale) (milder : first.Milder second)
    (connection : Connection Rat) :
    rates.smokeDue first connection ≤ rates.smokeDue second connection := by
  unfold smokeDue
  split
  · exact le_rfl
  · rename_i next _
    exact add_le_add le_rfl (mul_le_mul_of_nonneg_left (milder.thinner next) nonneg)

theorem blockedDue_le (least : 1 ≤ rates.blockedFactor) (milder : first.Milder second)
    (connection : Connection Rat) :
    rates.blockedDue first connection ≤ rates.blockedDue second connection := by
  unfold blockedDue
  simp only [List.contains_iff_mem]
  by_cases shut : connection.index ∈ first.blocked
  · rw [if_pos shut, if_pos (milder.opener _ shut)]
  · rw [if_neg shut]
    split
    · exact least
    · exact le_rfl

/-- Worse conditions lower nothing that is owed. -/
theorem due_le {before after : Nat → Conditions Rat} {number : Nat} {settings : Settings Rat}
    (nonneg : 0 ≤ rates.smokeScale) (least : 1 ≤ rates.blockedFactor)
    (milder : (before number).Milder (after number)) {sensor : Sensor Rat}
    (member : sensor ∈ (Suite.standard (some number) settings).sensors) (agent : Agent Rat)
    (network : Network Rat) (here : Region Rat) (connection : Connection Rat) :
    (rates.due before agent network here connection sensor = none ∧
      rates.due after agent network here connection sensor = none) ∨
    ∃ low high, rates.due before agent network here connection sensor = some low ∧
      rates.due after agent network here connection sensor = some high ∧ low ≤ high := by
  rcases Suite.mem_standard member with rfl | rfl | rfl | ⟨_, same, rfl | rfl⟩
  · exact Or.inl ⟨rfl, rfl⟩
  · exact Or.inr ⟨_, _, rfl, rfl, le_rfl⟩
  · exact Or.inr ⟨_, _, rfl, rfl, le_rfl⟩
  · cases same
    exact Or.inr ⟨_, _, rfl, rfl, smokeDue_le nonneg milder connection⟩
  · cases same
    exact Or.inr ⟨_, _, rfl, rfl, blockedDue_le least milder connection⟩

end Rates

namespace Settings

variable {settings : Settings Rat}

/-- Exact settings that were accepted come to numbers, if they tell how far an agent remembers. -/
theorem Accepted.exists_gives (accepted : settings.Accepted) {memory : Nat}
    (isMemory : (settings.value .memory).depth? = some memory) :
    ∃ rates, settings.Gives rates := by
  have computed : ∀ {value : Value Rat} {number : Rat}, value.number? = some number →
      (value.number : Except (Fault Rat) Rat) = .ok number := by
    intro value number isNumber
    cases value with
    | bool _ | int _ | real _ => exact congrArg Except.ok (Option.some.inj isNumber)
    | null | text _ | bytes _ | moment _ | list _ | mapping _ | endless => cases isNumber
  choose category isCategory _ using accepted.category
  rcases accepted.returnFactor with ⟨returnFactor, isReturn, -⟩
  rcases accepted.blockedFactor with ⟨blockedFactor, isBlocked, -⟩
  rcases accepted.smokeScale with ⟨smokeScale, isScale, -⟩
  exact ⟨⟨category, returnFactor, blockedFactor, smokeScale, memory⟩,
    fun kind => computed (isCategory kind), computed isReturn, computed isBlocked,
    computed isScale, isMemory⟩

/-- Settings that do not tell how far an agent remembers are of a wrong type. -/
theorem remembered_of_unreadable (unreadable : (settings.value .memory).depth? = none)
    (agent : Agent Rat) : Sensor.remembered settings agent = .error .wrongType := by
  unfold Value.depth? at unreadable
  unfold Sensor.remembered
  cases isDepth : (settings.value .memory).number? with
  | none => rfl
  | some depth =>
    rw [isDepth, Option.bind_some] at unreadable
    dsimp only
    split at unreadable
    · rename_i deep
      rw [if_pos deep, Option.map_eq_none_iff.mp unreadable]
    · cases unreadable

end Settings

/-! ## Factors that are stored -/

/-- Every factor that is stored is above zero. -/
def Tariff.Positive (tariff : Tariff Rat) : Prop :=
  ∀ index name factor, (tariff.of index).find? name = some factor → 0 < factor

theorem Tariff.Positive.below (positive : Tariff.Positive tariff) (index : Nat) :
    (tariff.of index).Below (tariff.of index) := by
  intro name
  cases found : (tariff.of index).find? name with
  | none => exact Or.inl ⟨rfl, rfl⟩
  | some factor => exact Or.inr ⟨factor, factor, rfl, rfl, positive index name factor found, le_rfl⟩

theorem Awareness.Cheaper.refl {awareness : Awareness Rat}
    (positive : awareness.tariff.Positive) : awareness.Cheaper awareness :=
  ⟨rfl, rfl, rfl, rfl, rfl, rfl, positive.below⟩

namespace Suite

variable [Outline σ Rat] {first second : World Rat σ} {agent : Agent Rat}
  {awareness : Awareness Rat}

/-- Only factors above zero are written. -/
theorem runAll_positive (positive : awareness.tariff.Positive) (world : World Rat σ)
    (sensors : List (Sensor Rat)) :
    (runAll world agent awareness sensors).awareness.tariff.Positive := by
  refine runAll_keeps (fun after => after.tariff.Positive) (fun sensor _ before positive => ?_)
    positive
  rcases Sensor.execute_cases sensor world agent before with same |
    ⟨region, fresh, -, discovered⟩ | ⟨report, factors, -, -, written⟩
  · rw [same]
    exact positive
  · rcases Awareness.discover_cases discovered with ⟨-, same⟩ | ⟨-, index, -, same⟩
    · rw [same]
      exact positive
    · rw [same]
      exact positive
  · rw [written]
    refine Sensor.write_keeps Tariff.Positive ?_ positive
    intro entry _ tariff after written before index name factor found
    rw [Tariff.find?_setFactor written] at found
    split at found
    · cases found
      unfold Tariff.setFactor at written
      split at written
      · rename_i isFactor
        exact of_decide_eq_true isFactor
      · cases written
    · exact before index name factor found

/-! ## Two runs -/

/-- An agent's memory that cannot be read ends a run before the conditions are looked at. -/
theorem escaped_of_unreadable {settings : Settings Rat}
    (unreadable : (settings.value .memory).depth? = none) (world : World Rat σ) :
    ∃ fault, (runAll world agent awareness (standard none settings).sensors).escaped =
      some fault := by
  refine Option.ne_none_iff_exists'.mp fun contained => ?_
  have skips := (runAll_spec (standard_names none settings) world agent awareness).1.mp contained
    (.history settings) (by simp [standard])
  have fails : failure world agent awareness (.history settings) =
      some (Sensor.name (.history settings : Sensor Rat), .wrongType) := by
    simp only [failure, Sensor.execute, Sensor.observe,
      Settings.remembered_of_unreadable unreadable, bind, Except.bind]
  have skipped := skips _ fails
  cases skipped

/-- So what the conditions are makes no difference to such a run. -/
theorem run_of_unreadable {settings : Settings Rat}
    (unreadable : (settings.value .memory).depth? = none)
    (sameBuilding : second.building = first.building) (number : Nat) :
    (standard (some number) settings).run second agent awareness =
      (standard (some number) settings).run first agent awareness := by
  have blind : runAll second agent awareness (standard none settings).sensors =
      runAll first agent awareness (standard none settings).sensors := by
    rcases first with ⟨building, conditions⟩
    rcases second with ⟨other, others⟩
    cases sameBuilding
    rfl
  have parts : (standard (some number) settings).sensors =
      (standard none settings).sensors ++ [.smoke number settings, .blocked number settings] := rfl
  have early : ∀ world : World Rat σ,
      (standard (some number) settings).run world agent awareness =
        runAll world agent awareness (standard none settings).sensors := by
    intro world
    rcases escaped_of_unreadable unreadable world with ⟨fault, escaped⟩
    rw [run, parts, runAll_append_of_escaped escaped]
  rw [early, early, blind]

variable {settings : Settings Rat} {rates : Rates Rat} {number : Nat}

/-- An agent that stands nowhere learns nothing. -/
theorem run_of_lost {world : World Rat σ} (gives : settings.Gives rates) {fault : Fault Rat}
    (lost : Sensor.currentRegion world agent awareness = .error fault) :
    ((standard (some number) settings).run world agent awareness).awareness = awareness := by
  rcases Network.regionFor_fails _ _ _ _ fault lost with rfl
  have skips : (Fault.unlocated agent.position : Fault Rat).skipsSensor = true := rfl
  refine congrArg Run.awareness (runAll_of_refused (fun sensor member => ?_) skips)
  rcases gives.recalls member agent with ⟨recent, recalls⟩
  exact Sensor.execute_of_lost (standard_usual member) recalls lost

omit [Outline σ Rat] in
/-- What is paid in milder conditions is no more than what is paid in worse ones. -/
theorem cheaper_of_assessed {here : Region Rat} {mild harsh : Awareness Rat}
    (nonneg : 0 ≤ rates.smokeScale) (least : 1 ≤ rates.blockedFactor)
    (milder : (first.conditions number).Milder (second.conditions number))
    (assessed : awareness.Assessed (standard (some number) settings).sensors
      (rates.due first.conditions agent awareness.network here) here mild)
    (also : awareness.Assessed (standard (some number) settings).sensors
      (rates.due second.conditions agent awareness.network here) here harsh)
    (before : awareness.tariff.Positive) (positive : mild.tariff.Positive) :
    mild.Cheaper harsh := by
  refine ⟨also.network.trans assessed.network.symm, also.complete.trans assessed.complete.symm, ?_,
    also.baseCosts.trans assessed.baseCosts.symm, also.lowest.trans assessed.lowest.symm,
    also.highest.trans assessed.highest.symm, fun index name => ?_⟩
  · rcases assessed.discovered with ⟨isKnown, same⟩ | ⟨unknown, same⟩
    · rcases also.discovered with ⟨-, sameAlso⟩ | ⟨contrary, -⟩
      · rw [same, sameAlso]
      · exact absurd isKnown contrary
    · rcases also.discovered with ⟨contrary, -⟩ | ⟨-, sameAlso⟩
      · exact absurd contrary unknown
      · rw [same, sameAlso]
  · by_cases isPaid : ∃ connection ∈ awareness.network.leaving here.index,
        ∃ sensor ∈ (standard (some number) settings).sensors,
          connection.index = index ∧ sensor.name = name ∧
            rates.due first.conditions agent awareness.network here connection sensor ≠ none
    · rcases isPaid with ⟨connection, leaves, sensor, member, rfl, rfl, isDue⟩
      rcases Rates.due_le nonneg least milder member agent awareness.network here connection with
        ⟨nothing, -⟩ | ⟨low, high, isLow, isHigh, ordered⟩
      · exact absurd nothing isDue
      · have found := assessed.paid connection leaves sensor member low isLow
        exact Or.inr ⟨low, high, found, also.paid connection leaves sensor member high isHigh,
          positive _ _ low found, ordered⟩
    · have unpaid : ∀ connection ∈ awareness.network.leaving here.index,
          ∀ sensor ∈ (standard (some number) settings).sensors,
            connection.index = index → sensor.name = name →
              rates.due first.conditions agent awareness.network here connection sensor = none := by
        intro connection leaves sensor member isIndex isName
        by_contra isDue
        exact isPaid ⟨connection, leaves, sensor, member, isIndex, isName, isDue⟩
      rw [assessed.others index name unpaid, also.others index name ?_]
      · exact before.below index name
      · intro connection leaves sensor member isIndex isName
        have nothing := unpaid connection leaves sensor member isIndex isName
        rcases Rates.due_le nonneg least milder member agent awareness.network here connection with
          ⟨-, absent⟩ | ⟨low, high, isLow, -⟩
        · exact absent
        · cases nothing.symm.trans isLow

/-- After a run in worse conditions no factor is lower. -/
theorem run_cheaper (accepted : settings.Accepted) {blocked : Rat}
    (isBlocked : settings.number .blockedFactor = .ok blocked) (least : 1 ≤ blocked)
    (positive : awareness.tariff.Positive) (sameBuilding : second.building = first.building)
    (suits : first.Suits (some number) awareness) (also : second.Suits (some number) awareness)
    (milder : (first.conditions number).Milder (second.conditions number)) (agent : Agent Rat) :
    ((standard (some number) settings).run first agent awareness).awareness.Cheaper
      ((standard (some number) settings).run second agent awareness).awareness := by
  have written : (runAll first agent awareness
      (standard (some number) settings).sensors).awareness.tariff.Positive :=
    runAll_positive positive first _
  cases memory : (settings.value .memory).depth? with
  | none =>
    rw [run_of_unreadable memory sameBuilding]
    exact .refl written
  | some depth =>
    rcases accepted.exists_gives memory with ⟨rates, gives⟩
    have finite : settings.Finite :=
      ⟨fun _ _ _ => rfl, fun _ _ => rfl, fun _ _ => rfl, fun _ _ => rfl⟩
    have samePlace : Sensor.currentRegion second agent awareness =
        Sensor.currentRegion first agent awareness := by
      unfold Sensor.currentRegion
      rw [sameBuilding]
    cases located : Sensor.currentRegion first agent awareness with
    | error fault =>
      rw [run_of_lost gives located, run_of_lost gives (samePlace.trans located)]
      exact .refl positive
    | ok here =>
      have nonneg : 0 ≤ rates.smokeScale := by
        rcases accepted.smokeScale with ⟨scale, isScale, nonneg⟩
        cases isScale.symm.trans (Value.number?_of_number gives.smokeScale)
        exact nonneg
      have isFactor := Except.ok.inj (isBlocked.symm.trans gives.blockedFactor)
      exact cheaper_of_assessed nonneg (isFactor ▸ least) milder
        (run_assesses accepted finite gives suits located)
        (run_assesses accepted finite gives also (samePlace.trans located)) positive written

/-- Of two runs from one awareness, the one in worse conditions leaves every weight and every least
cost as high as the other or higher, and the same regions in reach. -/
theorem hazards_cheapen_nothing {overrides : Value Rat}
    (made : Settings.ofOverrides overrides = .ok settings) {blocked : Rat}
    (isBlocked : settings.number .blockedFactor = .ok blocked) (least : 1 ≤ blocked)
    (sound : awareness.Sound) (positive : awareness.tariff.Positive)
    (sameBuilding : second.building = first.building)
    (suits : first.Suits (some number) awareness) (also : second.Suits (some number) awareness)
    (milder : (first.conditions number).Milder (second.conditions number)) (agent : Agent Rat) :
    let mild := ((standard (some number) settings).run first agent awareness).awareness
    let harsh := ((standard (some number) settings).run second agent awareness).awareness
    (∀ connection ∈ awareness.network.connections, ∃ less more,
      mild.weight connection.index = .ok less ∧ harsh.weight connection.index = .ok more ∧
        less ≤ more) ∧
    ∀ start < awareness.network.size, ∃ near far,
      mild.distances start none = .ok near ∧ harsh.distances start none = .ok far ∧
      (∀ region, region ∈ near.keys ↔ region ∈ far.keys) ∧
      ∀ region label other, near.find? region = some label → far.find? region = some other →
        label.cost ≤ other.cost := by
  intro mild harsh
  have accepted := Settings.accepted_of_ofOverrides made
  have cheaper : mild.Cheaper harsh :=
    run_cheaper accepted isBlocked least positive sameBuilding suits also milder agent
  have grows := (standard (some number) settings).run_grows first agent awareness
  have grown : mild.Sound := grows.sound sound
  have network : mild.network = awareness.network := grows.network
  refine ⟨fun connection member => ?_, fun start inside => ?_⟩
  · exact cheaper.weight_le grown (network.symm ▸ member)
  · exact cheaper.distances_le grown (network.symm ▸ inside)

/-- With the defaults, in the row without smoke and with open doors, and in the row with smoke in
the middle room and a blocked door. -/
theorem hazards_cheapen_nothing_in_row :
    let mild := ((standard (some 0) .defaults).run Guidance.calmRow Guidance.walker
      (.inRow false [])).awareness
    let harsh := ((standard (some 0) .defaults).run hazyRow Guidance.walker
      (.inRow false [])).awareness
    (∀ connection ∈ Building.rowNetwork.connections, ∃ less more,
      mild.weight connection.index = .ok less ∧ harsh.weight connection.index = .ok more ∧
        less ≤ more) ∧
    ∀ start < Building.rowNetwork.size, ∃ near far,
      mild.distances start none = .ok near ∧ harsh.distances start none = .ok far ∧
      (∀ region, region ∈ near.keys ↔ region ∈ far.keys) ∧
      ∀ region label other, near.find? region = some label → far.find? region = some other →
        label.cost ≤ other.cost := by
  have accepted : Settings.ofOverrides .null = .ok (Settings.defaults : Settings Rat) :=
    Settings.ofOverrides_null (eq_ok_of_isOk (by decide +kernel) ())
  have isBlocked : (Settings.defaults : Settings Rat).number .blockedFactor = .ok 1000 :=
    congrArg Except.ok (by decide +kernel)
  have named : ∀ region ∈ Building.rowNetwork.regions,
      (Category.ofLabel? region.category).isSome = true := by decide +kernel
  have costed : (Awareness.inRow false []).tariff.baseCosts.length =
      (Awareness.inRow false []).network.connections.length := by decide +kernel
  have sameBuilding : hazyRow.building = Guidance.calmRow.building := rfl
  have hazy : ∀ region density, ((∅ : Table Int Rat).insert 1 (1 / 2)).find? region =
      some density → density = 1 / 2 := by
    intro region density found
    rw [Table.find?_insert] at found
    split at found
    · exact (Option.some.inj found).symm
    · cases found
  have calm : Guidance.calmRow.Suits (some 0) (.inRow false []) := by
    refine ⟨Building.row_priced.formed, named, costed, fun _ _ => rfl, ?_⟩
    intro _ _ region density found
    have clear : (none : Option Rat) = some density := found
    cases clear
  have smoky : hazyRow.Suits (some 0) (.inRow false []) := by
    refine ⟨Building.row_priced.formed, named, costed, fun _ _ => rfl, ?_⟩
    intro _ _ region density found
    rw [hazy region density found]
    exact ⟨by decide +kernel, by decide +kernel⟩
  have milder : (Guidance.calmRow.conditions 0).Milder (hazyRow.conditions 0) := by
    refine ⟨fun region => ?_, fun index shut => absurd shut List.not_mem_nil⟩
    change (0 : Rat) ≤ _
    cases found : (hazyRow.conditions 0).smoke.find? region with
    | none => exact le_rfl
    | some density =>
      rw [hazy region density found]
      decide +kernel
  exact hazards_cheapen_nothing accepted isBlocked (by decide +kernel)
    (Awareness.inRow_sound false []) (fun _ _ _ found => by cases found) sameBuilding calm smoky
    milder Guidance.walker

end Suite

end Egress
