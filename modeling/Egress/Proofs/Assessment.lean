import Egress.Proofs.Factors

/-!
# What a run of the usual sensors amounts to

A run of the usual sensors judges an agent's surroundings as a whole or not at all.  An agent that
stands in no region is reported by every sensor, and nothing is written.  Otherwise no sensor fails:
the current region becomes known, each connection that leaves it gets the factor that each judging
sensor owes it, and every other factor stays as it was.  The agent and the conditions are only read.

What is owed is said in numbers and without the sensors: by the category behind the door, by the
regions that the agent has just left, by the density of smoke behind the door, and by whether the
door is blocked.

This takes settings that can be computed with.  Being accepted is not enough: how many regions an
agent remembers is not checked, and an integer beyond all numbers passes for an infinite one.
-/

namespace Egress

open Scalar

variable {α σ : Type} [Scalar α]

/-! ## What is owed -/

/-- The numbers that the usual sensors go by. -/
structure Rates (α : Type) where
  category : Category → α
  returnFactor : α
  blockedFactor : α
  smokeScale : α
  /-- How many of the regions just left an agent remembers. -/
  memory : Nat

/-- How many regions are remembered under a setting: none if it is not above zero, and otherwise as
many as it says, which has to be an integer. -/
def Value.depth? (value : Value α) : Option Nat :=
  value.number?.bind fun depth =>
    if zero < depth then value.integer?.map Int.toNat else some 0

/-- The settings come to these numbers. -/
structure Settings.Gives (settings : Settings α) (rates : Rates α) : Prop where
  category : ∀ category, (settings.categoryFactor category).number = .ok (rates.category category)
  returnFactor : settings.number .returnFactor = .ok rates.returnFactor
  blockedFactor : settings.number .blockedFactor = .ok rates.blockedFactor
  smokeScale : settings.number .smokeScale = .ok rates.smokeScale
  memory : (settings.value .memory).depth? = some rates.memory

namespace Rates

variable (rates : Rates α)

/-- The factor for the category behind a door: that of the table, unless nothing changes or the door
leads out of the modelled space. -/
def categoryDue (network : Network α) (here : Region α) (connection : Connection α) : α :=
  match connection.destination.bind fun next => network.regions[next.toNat]? with
  | none => one
  | some target =>
    if target.category = here.category then one
    else (Category.ofLabel? target.category).elim one rates.category

/-- The factor for turning back. -/
def returnDue (agent : Agent α) (connection : Connection α) : α :=
  if connection.destination.any (Agent.recent (some rates.memory) agent.history).contains
    then rates.returnFactor else one

/-- The factor for smoke behind a door. -/
def smokeDue (conditions : Conditions α) (connection : Connection α) : α :=
  match connection.destination with
  | none => one
  | some next => one + rates.smokeScale * (conditions.smoke.find? next).getD zero

/-- The factor for a blocked door. -/
def blockedDue (conditions : Conditions α) (connection : Connection α) : α :=
  if conditions.blocked.contains connection.index then rates.blockedFactor else one

/-- What a sensor owes a connection that leaves a region, if it judges connections. -/
def due (conditions : Nat → Conditions α) (agent : Agent α) (network : Network α) (here : Region α)
    (connection : Connection α) : Sensor α → Option α
  | .category _ => some (rates.categoryDue network here connection)
  | .history _ => some (rates.returnDue agent connection)
  | .smoke number _ => some (rates.smokeDue (conditions number) connection)
  | .blocked number _ => some (rates.blockedDue (conditions number) connection)
  | .blank | .discovery | .custom _ _ => none

end Rates

/-- One awareness came from another in that a region became known and factors were written on the
connections leaving it, each under the name of the sensor that owes it. -/
structure Awareness.Assessed (sensors : List (Sensor α))
    (due : Connection α → Sensor α → Option α) (here : Region α)
    (before after : Awareness α) : Prop where
  network : after.network = before.network
  complete : after.complete = before.complete
  discovered : before.Knows here.index ∧ after.discovered = before.discovered ∨
    ¬ before.Knows here.index ∧ after.discovered = before.discovered ++ [here.index]
  baseCosts : after.tariff.baseCosts = before.tariff.baseCosts
  lowest : after.tariff.lowest = before.tariff.lowest
  highest : after.tariff.highest = before.tariff.highest
  paid : ∀ connection ∈ before.network.leaving here.index, ∀ sensor ∈ sensors,
    ∀ factor, due connection sensor = some factor →
      (after.tariff.of connection.index).find? sensor.name = some factor
  others : ∀ index name, (∀ connection ∈ before.network.leaving here.index, ∀ sensor ∈ sensors,
      connection.index = index → sensor.name = name → due connection sensor = none) →
    (after.tariff.of index).find? name = (before.tariff.of index).find? name

/-- What an agent knows is fit to be assessed: its network is well-formed with known categories, its
tariff has a place for each connection, and conditions that are read are kept for the network, with
densities in their bounds. -/
structure World.Suits (world : World α σ) (field : Option Nat) (awareness : Awareness α) :
    Prop where
  formed : awareness.network.WellFormed
  named : ∀ region ∈ awareness.network.regions, (Category.ofLabel? region.category).isSome = true
  costed : awareness.tariff.baseCosts.length = awareness.network.connections.length
  monitored : ∀ number, field = some number →
    (world.conditions number).network = awareness.network
  bounded : ∀ number, field = some number → (world.conditions number).Bounded

/-! ## Writing a report -/

namespace Tariff

variable {tariff : Tariff α}

theorem setFactor_of_lt {index : Nat} (inside : index < tariff.baseCosts.length) (name : String)
    {factor : α} (valid : isFactor factor = true) :
    ∃ after, tariff.setFactor index name factor = .ok after := by
  have isIndex : tariff.indexOf index = .ok index := by
    unfold indexOf
    rw [if_pos ⟨by omega, by omega⟩]
    rfl
  unfold setFactor
  rw [if_pos valid, isIndex]
  exact ⟨_, rfl⟩

end Tariff

namespace Sensor

variable {name : String} {entries : List (Int × α)} {tariff : Tariff α}

/-- A report of factors on connections of the tariff is written to its end. -/
theorem write_succeeds
    (inside : ∀ entry ∈ entries, ∃ index : Nat, entry.1 = index ∧ index < tariff.baseCosts.length)
    (valid : ∀ entry ∈ entries, isFactor entry.2 = true) :
    (write name tariff entries).2 = .ok () := by
  induction entries generalizing tariff with
  | nil => rfl
  | cons entry rest hypothesis =>
    rcases entry with ⟨reference, factor⟩
    rcases inside _ List.mem_cons_self with ⟨index, rfl, isInside⟩
    rcases Tariff.setFactor_of_lt isInside name (valid _ List.mem_cons_self) with ⟨after, written⟩
    simp only [write, written]
    refine hypothesis (fun other member => ?_) fun other member =>
      valid other (List.mem_cons_of_mem _ member)
    rw [(Tariff.setFactor_frame written).1]
    exact inside other (List.mem_cons_of_mem _ member)

/-- What the report does not name stays as it was. -/
theorem find?_write_of_notMem {index : Nat} {key : String}
    (absent : key = name → (index : Int) ∉ entries.map Prod.fst) :
    ((write name tariff entries).1.of index).find? key = (tariff.of index).find? key := by
  refine write_keeps (fun after => (after.of index).find? key = (tariff.of index).find? key) ?_ rfl
  intro entry member current after written before
  rw [Tariff.find?_setFactor written, if_neg, before]
  rintro ⟨same, rfl⟩
  exact absent rfl (List.mem_map.mpr ⟨entry, member, same.symm⟩)

/-- What the report says is found afterwards. -/
theorem find?_write_of_mem (distinct : (entries.map Prod.fst).Nodup)
    (succeeded : (write name tariff entries).2 = .ok ()) {index : Nat} {factor : α}
    (member : ((index : Int), factor) ∈ entries) :
    ((write name tariff entries).1.of index).find? name = some factor := by
  induction entries generalizing tariff with
  | nil => exact absurd member List.not_mem_nil
  | cons entry rest hypothesis =>
    rcases entry with ⟨reference, given⟩
    rw [List.map_cons, List.nodup_cons] at distinct
    cases written : tariff.setFactor reference name given with
    | error fault =>
      simp only [write, written] at succeeded
      cases succeeded
    | ok after =>
      simp only [write, written] at succeeded ⊢
      rcases List.mem_cons.mp member with same | later
      · cases same
        rw [find?_write_of_notMem fun _ => distinct.1, Tariff.find?_setFactor written,
          if_pos ⟨rfl, rfl⟩]
      · exact hypothesis distinct.2 succeeded later

/-! ## One sensor -/

variable [Outline σ α] {world : World α σ} {agent : Agent α} {awareness : Awareness α}
  {sensor : Sensor α} {recent : List Int}

/-- For an agent that is lost, a sensor that recalls what it needs fails before it reports. -/
theorem execute_of_lost (usual : sensor = .discovery ∨ sensor.judges = true)
    (recalls : sensor.recalled agent = .ok recent) {fault : Fault α}
    (lost : currentRegion world agent awareness = .error fault) :
    sensor.execute world agent awareness = (awareness, .error fault) := by
  rcases usual with rfl | judging
  · simp only [execute, lost]
  · have writer : sensor ≠ .discovery := by
      rintro rfl
      cases judging
    rw [execute_eq_written writer, observe_of_judges judging, recalls, lost]
    rfl

omit [Outline σ α] in
/-- What a sensor says of a connection comes to a number. -/
def ComesTo (sensor : Sensor α) (world : World α σ) (network : Network α) (here : Region α)
    (recent : List Int) (connection : Connection α) (factor : α) : Prop :=
  ∃ value, sensor.verdict world network here recent connection = .ok value ∧
    value.number = .ok factor

/-- A sensor whose verdicts come to factors writes them. -/
theorem execute_of_verdicts (judging : sensor.judges = true)
    (recalls : sensor.recalled agent = .ok recent) {here : Region α}
    (located : currentRegion world agent awareness = .ok here)
    (formed : awareness.network.WellFormed) {factor : Connection α → α}
    (verdicts : ∀ connection ∈ awareness.network.leaving here.index,
      sensor.ComesTo world awareness.network here recent connection (factor connection))
    (valid : ∀ connection ∈ awareness.network.leaving here.index,
      isFactor (factor connection) = true) :
    sensor.execute world agent awareness = written sensor.name awareness
      (.ok ((awareness.network.leaving here.index).map fun connection =>
        ((connection.index : Int), factor connection))) := by
  have writer : sensor ≠ .discovery := by
    rintro rfl
    cases judging
  choose! value said computed using verdicts
  have distinct := formed.references_nodup here.index
  have reported : reportOn (awareness.network.leaving here.index) (fun connection =>
      sensor.verdict world awareness.network here recent connection) =
        .ok (Table.ofList ((awareness.network.leaving here.index).map fun connection =>
          ((connection.index : Int), value connection))) := by
    rw [reportOn, mapM_of_values fun connection leaves => by rw [said connection leaves]; rfl]
    rfl
  have read : factorsIn sensor.name (Table.ofList
      ((awareness.network.leaving here.index).map fun connection =>
        ((connection.index : Int), value connection))) =
      .ok ((awareness.network.leaving here.index).map fun connection =>
        ((connection.index : Int), factor connection)) := by
    rw [factorsIn, Table.entries_ofList (by rwa [List.map_map]), List.mapM_map]
    refine mapM_of_values fun connection leaves => ?_
    simp only [Function.comp, computed connection leaves, bind, Except.bind,
      if_pos (valid connection leaves)]
    rfl
  rw [execute_eq_written writer, observe_of_judges judging, recalls, located]
  simp only [Except.bind, reported, read]

/-- A sensor that is executed for an agent in a region writes factors on the connections leaving it,
and nothing else under its name. -/
structure Pays (sensor : Sensor α) (world : World α σ) (agent : Agent α) (awareness : Awareness α)
    (here : Region α) (factor : Connection α → α) : Prop where
  succeeds : ∃ count, (sensor.execute world agent awareness).2 = .ok count
  paid : ∀ connection ∈ awareness.network.leaving here.index,
    ((sensor.execute world agent awareness).1.tariff.of connection.index).find? sensor.name =
      some (factor connection)
  others : ∀ index,
    (∀ connection ∈ awareness.network.leaving here.index, connection.index ≠ index) →
      ((sensor.execute world agent awareness).1.tariff.of index).find? sensor.name =
        (awareness.tariff.of index).find? sensor.name

theorem pays_of_verdicts (judging : sensor.judges = true)
    (recalls : sensor.recalled agent = .ok recent) {here : Region α}
    (located : currentRegion world agent awareness = .ok here)
    (formed : awareness.network.WellFormed)
    (costed : awareness.tariff.baseCosts.length = awareness.network.connections.length)
    {factor : Connection α → α}
    (verdicts : ∀ connection ∈ awareness.network.leaving here.index,
      sensor.ComesTo world awareness.network here recent connection (factor connection))
    (valid : ∀ connection ∈ awareness.network.leaving here.index,
      isFactor (factor connection) = true) :
    sensor.Pays world agent awareness here factor := by
  have executed := execute_of_verdicts judging recalls located formed verdicts valid
  have succeeded : (write sensor.name awareness.tariff
      ((awareness.network.leaving here.index).map fun connection =>
        ((connection.index : Int), factor connection))).2 = .ok () := by
    apply write_succeeds
    · intro entry member
      rcases List.mem_map.mp member with ⟨connection, leaves, rfl⟩
      refine ⟨connection.index, rfl, ?_⟩
      rw [costed]
      exact formed.index_lt_of_mem (Network.mem_leaving.mp leaves).1
    · intro entry member
      rcases List.mem_map.mp member with ⟨connection, leaves, rfl⟩
      exact valid connection leaves
  refine ⟨?_, fun connection leaves => ?_, fun index elsewhere => ?_⟩
  · rw [executed]
    simp only [written, succeeded]
    exact ⟨_, rfl⟩
  · rw [executed]
    refine find?_write_of_mem ?_ succeeded (List.mem_map.mpr ⟨connection, leaves, rfl⟩)
    rw [List.map_map]
    exact formed.references_nodup here.index
  · rw [executed]
    refine find?_write_of_notMem fun _ member => ?_
    rw [List.map_map] at member
    rcases List.mem_map.mp member with ⟨connection, leaves, same⟩
    exact elsewhere connection leaves (Int.ofNat.inj same)

end Sensor

/-! ## Verdicts and what is owed -/

namespace Settings.Gives

variable {settings : Settings α} {rates : Rates α}

/-- The settings tell how much of the history is recalled. -/
theorem remembered_eq (gives : settings.Gives rates) (agent : Agent α) :
    Sensor.remembered settings agent = .ok (Agent.recent (some rates.memory) agent.history) := by
  rcases Option.bind_eq_some_iff.mp gives.memory with ⟨depth, isDepth, rest⟩
  unfold Sensor.remembered
  rw [isDepth]
  dsimp only
  split at rest
  · rename_i deep
    rcases Option.map_eq_some_iff.mp rest with ⟨count, isCount, same⟩
    rw [if_pos deep, isCount, ← same]
  · rename_i shallow
    rw [if_neg shallow, ← Option.some.inj rest]
    exact congrArg Except.ok List.drop_length.symm

variable {world : World α σ} {network : Network α} {here : Region α} {recent : List Int}
  {connection : Connection α}

theorem category_comesTo (gives : settings.Gives rates) (formed : network.WellFormed)
    (named : ∀ region ∈ network.regions, (Category.ofLabel? region.category).isSome = true)
    (isConnection : connection ∈ network.connections) :
    (Sensor.category settings).ComesTo world network here recent connection
      (rates.categoryDue network here connection) := by
  unfold Sensor.ComesTo Sensor.verdict Rates.categoryDue
  dsimp only
  cases isNext : connection.destination with
  | none => exact ⟨_, rfl, rfl⟩
  | some next =>
    rcases formed.destination_lt connection isConnection next isNext with ⟨nonneg, inside⟩
    rcases Int.eq_ofNat_of_zero_le nonneg with ⟨index, rfl⟩
    rcases formed.region_of_lt (Int.ofNat_lt.mp inside) with ⟨target, found, -, -, isTarget⟩
    rcases Option.isSome_iff_exists.mp (named target (List.mem_of_getElem? found)) with
      ⟨kind, isKind⟩
    have behind : (some (index : Int)).bind (fun next => network.regions[next.toNat]?) =
        some target := found
    simp only [behind, isTarget, bind, Except.bind, Sensor.categoryFactor, isKind, Option.elim]
    split
    · exact ⟨_, rfl, rfl⟩
    · exact ⟨_, rfl, gives.category kind⟩

theorem history_comesTo (gives : settings.Gives rates) (agent : Agent α) :
    (Sensor.history settings).ComesTo world network here
      (Agent.recent (some rates.memory) agent.history) connection
      (rates.returnDue agent connection) := by
  refine ⟨_, rfl, ?_⟩
  unfold Rates.returnDue
  split
  · exact gives.returnFactor
  · rfl

theorem smoke_comesTo [LawfulDensities α] (gives : settings.Gives rates) (finite : settings.Finite)
    (accepted : settings.Accepted) (formed : network.WellFormed) {number : Nat}
    (monitored : (world.conditions number).network = network)
    (isConnection : connection ∈ network.connections) :
    (Sensor.smoke number settings).ComesTo world network here recent connection
      (rates.smokeDue (world.conditions number) connection) := by
  unfold Sensor.ComesTo Rates.smokeDue
  rw [Sensor.verdict_smoke]
  cases isNext : connection.destination with
  | none =>
    rcases accepted.smokeScale with ⟨scale, isScale, nonneg⟩
    cases isScale.symm.trans (Value.number?_of_number gives.smokeScale)
    have clear := LawfulDensities.factor_clear (finite.smokeScale _ gives.smokeScale) nonneg
    refine ⟨.real (one + rates.smokeScale * zero), ?_, congrArg Except.ok clear⟩
    simp only [Option.elim, Except.bind, gives.smokeScale]
  | some next =>
    rcases formed.destination_lt connection isConnection next isNext with ⟨nonneg, inside⟩
    rcases Int.eq_ofNat_of_zero_le nonneg with ⟨index, rfl⟩
    have read : (world.conditions number).density index =
        .ok (((world.conditions number).smoke.find? index).getD zero) := by
      unfold Conditions.density Conditions.regionIndex
      rw [monitored, if_pos ⟨nonneg, inside⟩]
      rfl
    refine ⟨.real (one + rates.smokeScale *
      ((world.conditions number).smoke.find? index).getD zero), ?_, rfl⟩
    simp only [Option.elim, Except.bind, gives.smokeScale, read]

theorem blocked_comesTo (gives : settings.Gives rates) (formed : network.WellFormed) {number : Nat}
    (monitored : (world.conditions number).network = network)
    (isConnection : connection ∈ network.connections) :
    (Sensor.blocked number settings).ComesTo world network here recent connection
      (rates.blockedDue (world.conditions number) connection) := by
  have inside := formed.index_lt_of_mem isConnection
  have read : (world.conditions number).isBlocked connection.index =
      .ok ((world.conditions number).blocked.contains connection.index) := by
    unfold Conditions.isBlocked Conditions.connectionIndex
    rw [monitored, if_pos ⟨by omega, by omega⟩]
    rfl
  unfold Sensor.ComesTo Sensor.verdict Rates.blockedDue
  simp only [read, bind, Except.bind]
  split
  · exact ⟨_, rfl, gives.blockedFactor⟩
  · exact ⟨_, rfl, rfl⟩

/-- The usual sensors recall what they need. -/
theorem recalls (gives : settings.Gives rates) {field : Option Nat} {sensor : Sensor α}
    (member : sensor ∈ (Suite.standard field settings).sensors) (agent : Agent α) :
    ∃ recent, sensor.recalled agent = .ok recent := by
  rcases Suite.mem_standard member with rfl | rfl | rfl | ⟨number, -, rfl | rfl⟩
  · exact ⟨_, rfl⟩
  · exact ⟨_, rfl⟩
  · exact ⟨_, gives.remembered_eq agent⟩
  · exact ⟨_, rfl⟩
  · exact ⟨_, rfl⟩

/-- The verdict of a judging sensor of the usual suite comes to what it owes. -/
theorem comesTo_due [LawfulDensities α] (gives : settings.Gives rates) (finite : settings.Finite)
    (accepted : settings.Accepted) {field : Option Nat} {awareness : Awareness α}
    (suits : world.Suits field awareness) {sensor : Sensor α}
    (member : sensor ∈ (Suite.standard field settings).sensors) (judging : sensor.judges = true)
    (agent : Agent α) (here : Region α) :
    ∃ recent, ∃ factor : Connection α → α, sensor.recalled agent = .ok recent ∧
      ∀ connection ∈ awareness.network.connections,
        rates.due world.conditions agent awareness.network here connection sensor =
          some (factor connection) ∧
        sensor.ComesTo world awareness.network here recent connection (factor connection) := by
  rcases Suite.mem_standard member with rfl | rfl | rfl | ⟨number, isField, rfl | rfl⟩
  · cases judging
  · exact ⟨[], rates.categoryDue awareness.network here, rfl, fun connection isConnection =>
      ⟨rfl, gives.category_comesTo suits.formed suits.named isConnection⟩⟩
  · exact ⟨_, rates.returnDue agent, gives.remembered_eq agent, fun connection _ =>
      ⟨rfl, gives.history_comesTo agent⟩⟩
  · exact ⟨[], rates.smokeDue (world.conditions number), rfl, fun connection isConnection =>
      ⟨rfl, gives.smoke_comesTo finite accepted suits.formed (suits.monitored number isField)
        isConnection⟩⟩
  · exact ⟨[], rates.blockedDue (world.conditions number), rfl, fun connection isConnection =>
      ⟨rfl, gives.blocked_comesTo suits.formed (suits.monitored number isField) isConnection⟩⟩

end Settings.Gives

/-! ## A run -/

namespace Suite

variable [Outline σ α] {world : World α σ} {agent : Agent α} {awareness : Awareness α}

/-- If every sensor is skipped for one fault and leaves the awareness alone, so does the run. -/
theorem runAll_of_refused {sensors : List (Sensor α)} {fault : Fault α}
    (refused : ∀ sensor ∈ sensors, sensor.execute world agent awareness = (awareness, .error fault))
    (skips : fault.skipsSensor = true) :
    runAll world agent awareness sensors =
      ⟨awareness, sensors.map fun sensor => (sensor.name, fault), none⟩ := by
  induction sensors with
  | nil => rfl
  | cons sensor rest hypothesis =>
    have others := hypothesis fun other member => refused other (List.mem_cons_of_mem _ member)
    simp only [runAll, refused sensor List.mem_cons_self, if_pos skips, others, List.map_cons]

theorem standard_usual {field : Option Nat} {settings : Settings α} {sensor : Sensor α}
    (member : sensor ∈ (standard field settings).sensors) :
    sensor = .discovery ∨ sensor.judges = true := by
  rcases mem_standard member with rfl | rfl | rfl | ⟨number, -, rfl | rfl⟩
  · exact Or.inl rfl
  all_goals exact Or.inr rfl

/-- Discovery makes the current region known. -/
theorem discovered_of_discovery (formed : awareness.network.WellFormed) {here : Region α}
    (located : Sensor.currentRegion world agent awareness = .ok here) :
    awareness.Knows here.index ∧
        (Sensor.discovery.execute world agent awareness).1.discovered = awareness.discovered ∨
      ¬ awareness.Knows here.index ∧
        (Sensor.discovery.execute world agent awareness).1.discovered =
          awareness.discovered ++ [here.index] := by
  have inside := formed.region_lt_of_mem (Network.regionFor_mem located)
  rcases awareness.discover_of_lt inside with ⟨found, fresh, discovered⟩
  simp only [Sensor.execute, located, discovered]
  rcases Awareness.discover_cases discovered with ⟨isKnown, rfl⟩ | ⟨unknown, index, isIndex, rfl⟩
  · exact Or.inl ⟨isKnown, rfl⟩
  · cases Int.ofNat.inj isIndex
    exact Or.inr ⟨unknown, rfl⟩

variable [LawfulDensities α] {settings : Settings α} {rates : Rates α} {field : Option Nat}

/-- What a judging sensor of the usual suite owes, it pays. -/
theorem standard_pays (accepted : settings.Accepted) (finite : settings.Finite)
    (gives : settings.Gives rates) (suits : world.Suits field awareness) {sensor : Sensor α}
    (member : sensor ∈ (standard field settings).sensors) (judging : sensor.judges = true)
    {here : Region α} (located : Sensor.currentRegion world agent awareness = .ok here) :
    ∃ factor : Connection α → α, sensor.Pays world agent awareness here factor ∧
      ∀ connection ∈ awareness.network.leaving here.index,
        rates.due world.conditions agent awareness.network here connection sensor =
          some (factor connection) := by
  rcases gives.comesTo_due finite accepted suits member judging agent here with
    ⟨recent, factor, recalls, comesTo⟩
  have inNetwork : ∀ connection ∈ awareness.network.leaving here.index,
      connection ∈ awareness.network.connections :=
    fun connection leaves => (Network.mem_leaving.mp leaves).1
  refine ⟨factor, ?_, fun connection leaves => (comesTo _ (inNetwork _ leaves)).1⟩
  refine Sensor.pays_of_verdicts judging recalls located suits.formed suits.costed
    (fun connection leaves => (comesTo _ (inNetwork _ leaves)).2) fun connection leaves => ?_
  rcases (comesTo _ (inNetwork _ leaves)).2 with ⟨value, said, computed⟩
  exact Sensor.verdict_makesFactor accepted finite suits.bounded member said _ computed

/-- For an agent in a region no usual sensor fails, and each does in a run what it would do if it
were executed first. -/
theorem run_succeeds (accepted : settings.Accepted) (finite : settings.Finite)
    (gives : settings.Gives rates) (suits : world.Suits field awareness) {here : Region α}
    (located : Sensor.currentRegion world agent awareness = .ok here) :
    let run := (standard field settings).run world agent awareness
    run.escaped = none ∧ run.failures = [] ∧
      ∀ sensor ∈ (standard field settings).sensors,
        Awareness.Alike sensor.name (sensor.execute world agent awareness).1 run.awareness := by
  have inside := suits.formed.region_lt_of_mem (Network.regionFor_mem located)
  rcases awareness.discover_of_lt inside with ⟨found, fresh, discovered⟩
  have succeeds : ∀ sensor ∈ (standard field settings).sensors,
      failure world agent awareness sensor = none := by
    intro sensor member
    unfold failure
    rcases standard_usual member with rfl | judging
    · simp only [Sensor.execute, located, discovered]
    · rcases standard_pays accepted finite gives suits member judging located with
        ⟨factor, pays, -⟩
      rcases pays.succeeds with ⟨count, succeeded⟩
      rw [succeeded]
  rcases runAll_spec (standard_names field settings) world agent awareness with ⟨whole, rest⟩
  have contained : ((standard field settings).run world agent awareness).escaped = none := by
    refine whole.mpr fun sensor member failed isFailed => ?_
    rw [succeeds sensor member] at isFailed
    cases isFailed
  rcases rest contained with ⟨failures, alike⟩
  exact ⟨contained, failures.trans (List.filterMap_eq_nil_iff.mpr succeeds), alike⟩

/-- For an agent in a region, a run of the usual sensors pays what is owed. -/
theorem run_assesses (accepted : settings.Accepted) (finite : settings.Finite)
    (gives : settings.Gives rates) (suits : world.Suits field awareness) {here : Region α}
    (located : Sensor.currentRegion world agent awareness = .ok here) :
    awareness.Assessed (standard field settings).sensors
      (rates.due world.conditions agent awareness.network here) here
      ((standard field settings).run world agent awareness).awareness := by
  rcases run_succeeds accepted finite gives suits located with ⟨-, -, alike⟩
  have grows := (standard field settings).run_grows world agent awareness
  refine ⟨grows.network, grows.complete, ?_, grows.baseCosts, grows.lowest, grows.highest, ?_, ?_⟩
  · rw [(alike .discovery List.mem_cons_self).discovered rfl]
    exact discovered_of_discovery suits.formed located
  · -- what was owed has been paid, since no other sensor writes under the name
    intro connection leaves sensor member factor isDue
    rw [(alike sensor member).found]
    rcases standard_usual member with rfl | judging
    · cases isDue
    · rcases standard_pays accepted finite gives suits member judging located with
        ⟨amount, pays, owed⟩
      cases isDue.symm.trans (owed connection leaves)
      exact pays.paid connection leaves
  · -- a name outside the suite is not written under, and a sensor writes only what it owes
    intro index name unpaid
    by_cases isName : name ∈ (standard field settings).sensors.map Sensor.name
    · rcases List.mem_map.mp isName with ⟨sensor, member, rfl⟩
      rw [(alike sensor member).found]
      rcases standard_usual member with rfl | judging
      · rw [Sensor.tariff_discovery]
      · rcases standard_pays accepted finite gives suits member judging located with
          ⟨amount, pays, owed⟩
        refine pays.others index fun connection leaves same => ?_
        cases (owed connection leaves).symm.trans (unpaid connection leaves sensor member same rfl)
    · exact (runAll_others isName awareness).found index

/-- A run of the usual sensors reports an agent that stands nowhere once for each sensor and changes
nothing, or pays all that is owed and changes nothing else. -/
theorem run_all_or_nothing {overrides : Value α}
    (accepted : Settings.ofOverrides overrides = .ok settings) (finite : settings.Finite)
    (gives : settings.Gives rates) (suits : world.Suits field awareness) (agent : Agent α) :
    let run := (standard field settings).run world agent awareness
    run.escaped = none ∧
    (∀ fault, Sensor.currentRegion world agent awareness = .error fault →
      run.failures =
        (standard field settings).names.map (fun name => (name, .unlocated agent.position)) ∧
      run.awareness = awareness) ∧
    ∀ here, Sensor.currentRegion world agent awareness = .ok here →
      run.failures = [] ∧
      awareness.Assessed (standard field settings).sensors
        (rates.due world.conditions agent awareness.network here) here run.awareness := by
  have passed := Settings.accepted_of_ofOverrides accepted
  cases located : Sensor.currentRegion world agent awareness with
  | ok here =>
    rcases run_succeeds passed finite gives suits located with ⟨contained, failures, -⟩
    refine ⟨contained, fun fault impossible => (by cases impossible), fun region isRegion => ?_⟩
    cases isRegion
    exact ⟨failures, run_assesses passed finite gives suits located⟩
  | error fault =>
    rcases Network.regionFor_fails _ _ _ _ fault located with rfl
    have refused : ∀ sensor ∈ (standard field settings).sensors,
        sensor.execute world agent awareness =
          (awareness, .error (.unlocated agent.position)) := by
      intro sensor member
      rcases gives.recalls member agent with ⟨recent, recalls⟩
      exact Sensor.execute_of_lost (standard_usual member) recalls located
    have run := runAll_of_refused refused rfl
    refine ⟨congrArg Run.escaped run, fun other _ => ⟨?_, congrArg Run.awareness run⟩,
      fun here impossible => (by cases impossible)⟩
    refine (congrArg Run.failures run).trans ?_
    rw [names, List.map_map]
    rfl

/-- The numbers that the defaults come to. -/
def usualRates : Rates Rat where
  category
    | .corridor | .stair | .floor => 3 / 10
    | .lobby => 1 / 5
    | .entrance => 1 / 10
    | .escalatorUp | .escalatorDown | .deadArea | .unknown => 5
  returnFactor := 2
  blockedFactor := 1000
  smokeScale := 10
  memory := 3

/-- The row with smoke in the middle room, and a blocked door. -/
def hazyRow : World Rat (Box Rat) :=
  ⟨Building.row, fun _ => ⟨Building.rowNetwork, (∅ : Table Int Rat).insert 1 (1 / 2), [1]⟩⟩

/-- In that row, for an agent in the first room and with the defaults. -/
theorem run_all_or_nothing_in_row :
    Settings.ofOverrides .null = .ok (Settings.defaults : Settings Rat) ∧
    (Settings.defaults : Settings Rat).Finite ∧ Settings.defaults.Gives usualRates ∧
    hazyRow.Suits (some 0) (.inRow false []) ∧
    let run := (standard (some 0) .defaults).run hazyRow Guidance.walker (.inRow false [])
    ∃ here, Sensor.currentRegion hazyRow Guidance.walker (.inRow false []) = .ok here ∧
      run.escaped = none ∧ run.failures = [] ∧
      (Awareness.inRow false []).Assessed (standard (some 0) .defaults).sensors
        (usualRates.due hazyRow.conditions Guidance.walker Building.rowNetwork here) here
        run.awareness := by
  have accepted : Settings.ofOverrides .null = .ok (Settings.defaults : Settings Rat) :=
    Settings.ofOverrides_null (eq_ok_of_isOk (by decide +kernel) ())
  have finite : (Settings.defaults : Settings Rat).Finite :=
    ⟨fun _ _ _ => rfl, fun _ _ => rfl, fun _ _ => rfl, fun _ _ => rfl⟩
  have gives : Settings.defaults.Gives usualRates := by
    refine ⟨fun category => ?_, ?_, ?_, ?_, by decide +kernel⟩
    · cases category <;> exact congrArg Except.ok (by decide +kernel)
    all_goals exact congrArg Except.ok (by decide +kernel)
  have suits : hazyRow.Suits (some 0) (.inRow false []) := by
    refine ⟨Building.row_priced.formed, by decide +kernel, by decide +kernel, fun _ _ => rfl, ?_⟩
    intro number _ region density found
    rcases List.mem_singleton.mp (Table.find?_eq_some_iff.mp found) with same
    cases same
    exact ⟨by decide +kernel, by decide +kernel⟩
  rcases run_all_or_nothing accepted finite gives suits Guidance.walker with
    ⟨contained, -, assessed⟩
  have stands : (Sensor.currentRegion hazyRow Guidance.walker (.inRow false [])).isOk = true := by
    decide +kernel
  have located := eq_ok_of_isOk stands Building.lastInRow
  rcases assessed _ located with ⟨failures, paid⟩
  exact ⟨accepted, finite, gives, suits, _, located, contained, failures, paid⟩

/-- Of the regions just left, two and a half are to be remembered. -/
def fractional : Value Float := .mapping [(.text "last_destinations_memory", .real 2.5)]

/-- Turning back is to cost more than any double. -/
def boundless : Value Float := .mapping [(.text "last_destinations_factor", .int (10 ^ 400))]

/-- An agent outside all rooms. -/
def outsider : Agent Float := { Guidance.explorer with position := ⟨99, 99⟩ }

/-- An agent that has just left the room behind the door. -/
def returner : Agent Float := { Guidance.explorer with history := [1] }

/-- Being accepted is not enough.  A fraction of regions to be remembered ends the run of an agent
that should only be reported, and an integer beyond the doubles that of an agent in a room. -/
theorem run_neither_all_nor_nothing :
    (∃ settings, Settings.ofOverrides fractional = .ok settings ∧ settings.Finite ∧
      let awareness := Awareness.ofNetwork Guidance.islandNetwork false settings
      Guidance.calmIslands.Suits none awareness ∧
      (Sensor.currentRegion Guidance.calmIslands outsider awareness).isOk = false ∧
      ((standard none settings).run Guidance.calmIslands outsider awareness).escaped.map
        Fault.kind = some .wrongType) ∧
    ∃ settings, Settings.ofOverrides boundless = .ok settings ∧ settings.Finite ∧
      let awareness := Awareness.ofNetwork Guidance.islandNetwork false settings
      Guidance.calmIslands.Suits none awareness ∧
      (Sensor.currentRegion Guidance.calmIslands returner awareness).isOk = true ∧
      ((standard none settings).run Guidance.calmIslands returner awareness).escaped.map
        Fault.kind = some .tooLarge := by
  have suits : ∀ settings : Settings Float, Guidance.calmIslands.Suits none
      (Awareness.ofNetwork Guidance.islandNetwork false settings) := fun settings =>
    { formed := Guidance.islands_priced.formed
      named := show ∀ region ∈ Guidance.islandNetwork.regions,
        (Category.ofLabel? region.category).isSome = true by decide +kernel
      costed := List.length_map _
      monitored := fun _ absent => (by cases absent)
      bounded := fun _ absent => (by cases absent) }
  refine ⟨⟨_, Settings.ofOverrides_of_isOk ?_, Settings.finite_of_all ?_ ?_, suits _, ?_, ?_⟩,
    _, Settings.ofOverrides_of_isOk ?_, Settings.finite_of_all ?_ ?_, suits _, ?_, ?_⟩
  all_goals decide +kernel

end Suite

end Egress
