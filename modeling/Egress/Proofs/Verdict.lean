import Egress.Proofs.Hop
import Egress.Proofs.Settling

/-!
# Verdicts of sensors

The sensors that judge doors are one family: each reports on the connections leaving the current
region, and what it says of a connection depends on the building, the conditions and, for the sensor
that judges by history, on what the agent remembers.

So running a suite of such sensors makes the current region known and writes verdicts on the
connections that leave it, each under the name of its sensor, and nothing else.
-/

namespace Egress

variable {α σ : Type} [Scalar α]

namespace Sensor

/-- Whether a sensor is one of the built-in ones. -/
def isBuiltIn : Sensor α → Bool
  | custom _ _ => false
  | blank | discovery | category _ | history _ | smoke _ _ | blocked _ _ => true

/-- What an agent remembers, as far as a sensor asks for it. -/
def recalled (agent : Agent α) : Sensor α → Except (Fault α) (List Int)
  | history settings => remembered settings agent
  | _ => .ok []

/-- What a judging sensor says of a connection that leaves a region. -/
def verdict (world : World α σ) (network : Network α) (source : Region α) (recent : List Int)
    (connection : Connection α) : Sensor α → Except (Fault α) (Value α)
  | category settings =>
    match connection.destination with
    | none => .ok neutral
    | some destination => do
      let target ← network.regionAt destination
      categoryFactor settings source.category target.category
  | history settings =>
    .ok (if connection.destination.any recent.contains then settings.value .returnFactor
      else neutral)
  | smoke field settings => do
    let density ← match connection.destination with
      | none => .ok Scalar.zero
      | some destination => (world.conditions field).density destination
    return .real (Scalar.one + (← settings.number .smokeScale) * density)
  | blocked field settings => do
    return if ← (world.conditions field).isBlocked connection.index
      then settings.value .blockedFactor else neutral
  | blank | discovery | custom _ _ => .error .unsupported

/-- A verdict depends on the memory only as to whether the region behind the door is in it. -/
theorem verdict_congr (world : World α σ) (network : Network α) (source : Region α)
    {recent other : List Int} {connection : Connection α}
    (alike : ∀ next, connection.destination = some next → (next ∈ recent ↔ next ∈ other))
    (sensor : Sensor α) :
    sensor.verdict world network source recent connection =
      sensor.verdict world network source other connection := by
  cases sensor with
  | history settings =>
    unfold verdict
    cases isNext : connection.destination with
    | none => rfl
    | some next =>
      have same : recent.contains next = other.contains next := by
        rw [Bool.eq_iff_iff, List.contains_iff_mem, List.contains_iff_mem]
        exact alike next isNext
      rw [Option.any_some, Option.any_some, same]
  | blank | discovery | category _ | smoke _ _ | blocked _ _ | custom _ _ => rfl

/-- Smoke is judged by the density behind the door, and outside there is none. -/
theorem verdict_smoke (number : Nat) (settings : Settings α) (world : World α σ)
    (network : Network α) (source : Region α) (recent : List Int) (connection : Connection α) :
    (smoke number settings).verdict world network source recent connection =
      (connection.destination.elim (.ok Scalar.zero) (world.conditions number).density).bind
        fun density => (settings.number .smokeScale).bind fun scale =>
          .ok (.real (Scalar.one + scale * density)) := by
  unfold verdict
  dsimp only
  cases connection.destination <;> rfl

/-- What a sensor recalls is part of the history. -/
theorem mem_history_of_recalled {agent : Agent α} {sensor : Sensor α} {recent : List Int}
    (recalls : sensor.recalled agent = .ok recent) : ∀ region ∈ recent, region ∈ agent.history := by
  cases sensor with
  | history settings =>
    have recalls : remembered settings agent = .ok recent := recalls
    unfold remembered at recalls
    split at recalls
    · cases recalls
    · split at recalls
      · split at recalls
        · cases recalls
          exact fun region member => List.mem_of_mem_drop member
        · cases recalls
      · cases recalls
        exact fun region member => absurd member List.not_mem_nil
  | blank | discovery | category _ | smoke _ _ | blocked _ _ | custom _ _ =>
    cases recalls
    exact fun region member => absurd member List.not_mem_nil

omit [Scalar α] in
/-- A report holds what was said of each connection. -/
theorem mem_reportOn {connections : List (Connection α)}
    {judge : Connection α → Except (Fault α) (Value α)} {report : Table Int (Value α)}
    (reported : reportOn connections judge = .ok report) {entry : Int × Value α}
    (member : entry ∈ report.entries) :
    ∃ connection ∈ connections, entry.1 = connection.index ∧ judge connection = .ok entry.2 := by
  rcases bind_eq_ok.mp reported with ⟨pairs, visited, same⟩
  cases same
  rcases exists_of_forall₂ (mapM_eq_ok_iff.mp visited) entry (Table.mem_ofList member) with
    ⟨connection, isConnection, said⟩
  rcases bind_eq_ok.mp said with ⟨value, judged, same⟩
  cases same
  exact ⟨connection, isConnection, rfl, judged⟩

theorem mem_factorsIn {name : String} {report : Table Int (Value α)} {factors : List (Int × α)}
    (read : factorsIn name report = .ok factors) {entry : Int × α} (member : entry ∈ factors) :
    ∃ value, (entry.1, value) ∈ report.entries ∧ value.number = .ok entry.2 ∧
      Scalar.isFactor entry.2 = true := by
  rcases exists_of_forall₂ (mapM_eq_ok_iff.mp read) entry member with
    ⟨⟨reference, value⟩, isEntry, said⟩
  rcases bind_eq_ok.mp said with ⟨factor, number, rest⟩
  split at rest
  · rename_i isFactor
    cases rest
    exact ⟨value, isEntry, number, isFactor⟩
  · cases rest

variable [Outline σ α] {world : World α σ} {agent : Agent α} {awareness : Awareness α}

/-- Whether a sensor judges the connections of the current region. -/
def judges : Sensor α → Bool
  | category _ | history _ | smoke _ _ | blocked _ _ => true
  | blank | discovery | custom _ _ => false

/-- A judging sensor recalls what it needs, looks for the region, and reports its verdicts. -/
theorem observe_of_judges {sensor : Sensor α} (judging : sensor.judges = true) (world : World α σ)
    (agent : Agent α) (awareness : Awareness α) :
    sensor.observe world agent awareness =
      (sensor.recalled agent).bind fun recent =>
        (currentRegion world agent awareness).bind fun source =>
          reportOn (awareness.network.leaving source.index) fun connection =>
            sensor.verdict world awareness.network source recent connection := by
  cases sensor with
  | category _ | history _ | smoke _ _ | blocked _ _ => rfl
  | blank | discovery | custom _ _ => cases judging

/-- A built-in sensor reports its verdicts on the connections leaving the current region, or
nothing. -/
theorem observe_cases {sensor : Sensor α} (builtIn : sensor.isBuiltIn = true)
    {report : Table Int (Value α)} (observed : sensor.observe world agent awareness = .ok report) :
    report = ∅ ∨ ∃ recent source, sensor.recalled agent = .ok recent ∧
      currentRegion world agent awareness = .ok source ∧
      reportOn (awareness.network.leaving source.index) (fun connection =>
        sensor.verdict world awareness.network source recent connection) = .ok report := by
  cases judging : sensor.judges with
  | true =>
    rw [observe_of_judges judging] at observed
    rcases bind_eq_ok.mp observed with ⟨recent, recalls, rest⟩
    rcases bind_eq_ok.mp rest with ⟨source, located, judged⟩
    exact Or.inr ⟨recent, source, recalls, located, judged⟩
  | false =>
    cases sensor with
    | discovery =>
      cases observed
      exact Or.inl rfl
    | blank => cases observed
    | custom _ _ => cases builtIn
    | category _ | history _ | smoke _ _ | blocked _ _ => cases judging

end Sensor

namespace Suite

/-- The factors that a suite may write for a connection that leaves a region: the verdicts of its
sensors, for an agent that remembers only regions of a kind. -/
def Due (suite : Suite α) (world : World α σ) (network : Network α) (source : Region α)
    (remembered : Int → Prop) (connection : Connection α) (name : String) (factor : α) : Prop :=
  connection.source = source.index ∧ ∃ sensor ∈ suite.sensors, sensor.name = name ∧
    ∃ recent value, (∀ region ∈ recent, remembered region) ∧
      sensor.verdict world network source recent connection = .ok value ∧ value.number = .ok factor

end Suite

/-- One awareness came from another in that factors were written that were due, and what is known
did not change. -/
structure Awareness.Reweighed (due : Connection α → String → α → Prop)
    (before after : Awareness α) : Prop where
  grows : before.Grows after
  known : ∀ region, after.Knows region → before.Knows region
  tables : ∀ connection ∈ before.network.connections, Table.Written (due connection)
    (before.tariff.of connection.index) (after.tariff.of connection.index)

/-- Writing a report writes its entries for a connection into the table of the connection. -/
theorem Sensor.write_of (name : String) (entries : List (Int × α)) (tariff : Tariff α)
    (index : Nat) :
    Table.Written (fun key factor => key = name ∧ ((index : Int), factor) ∈ entries)
      (tariff.of index) ((write name tariff entries).1.of index) := by
  apply write_keeps fun after => Table.Written
    (fun key factor => key = name ∧ ((index : Int), factor) ∈ entries) (tariff.of index)
    (after.of index)
  · intro entry member middle after wrote written
    rw [Tariff.of_setFactor wrote]
    split
    · rename_i same
      exact written.write ⟨rfl, by rw [same]; exact member⟩
    · exact written
  · exact .none

namespace Suite

variable [Outline σ α] {world : World α σ} {agent : Agent α} {awareness : Awareness α}

/-- One built-in sensor writes what is due. -/
theorem reweighed_of_execute {suite : Suite α} {sensor : Sensor α} (member : sensor ∈ suite.sensors)
    (builtIn : sensor.isBuiltIn = true) (formed : awareness.network.WellFormed) {here : Region α}
    (located : Sensor.currentRegion world agent awareness = .ok here)
    (isKnown : awareness.Knows here.index) :
    Awareness.Reweighed (suite.Due world awareness.network here (· ∈ agent.history)) awareness
      (sensor.execute world agent awareness).1 := by
  have grows := sensor.execute_grows world agent awareness
  rcases sensor.execute_cases world agent awareness with same |
    ⟨region, fresh, isRegion, discovered⟩ | ⟨report, factors, observed, read, written⟩
  · rw [same]
    exact ⟨.refl awareness, fun _ isKnown => isKnown, fun _ _ => .none⟩
  · cases located.symm.trans isRegion
    rcases Awareness.discover_cases discovered with ⟨-, same⟩ | ⟨unknown, -⟩
    · rw [same]
      exact ⟨.refl awareness, fun _ isKnown => isKnown, fun _ _ => .none⟩
    · exact absurd isKnown unknown
  · refine ⟨grows, ?_, ?_⟩
    · rw [written]
      exact fun _ isKnown => isKnown
    · intro connection isConnection
      rw [written]
      refine (Sensor.write_of sensor.name factors awareness.tariff connection.index).mono ?_
      rintro key factor ⟨rfl, isEntry⟩
      rcases Sensor.mem_factorsIn read isEntry with ⟨value, isReported, number, -⟩
      rcases Sensor.observe_cases builtIn observed with rfl |
        ⟨recent, source, recalls, isSource, reported⟩
      · exact absurd isReported List.not_mem_nil
      · cases located.symm.trans isSource
        rcases Sensor.mem_reportOn reported isReported with ⟨judged, leaves, isIndex, said⟩
        rcases Network.mem_leaving.mp leaves with ⟨isJudged, leavesHere⟩
        have same : judged = connection := by
          have index : judged.index = connection.index := (Int.ofNat.inj isIndex).symm
          have first := formed.lookup_of_mem isJudged
          rw [index, formed.lookup_of_mem isConnection] at first
          exact (Option.some.inj first).symm
        subst same
        exact ⟨leavesHere, sensor, member, rfl, recent, value,
          Sensor.mem_history_of_recalled recalls, said, number⟩

/-- A suite of built-in sensors writes what is due. -/
theorem run_reweighs {suite : Suite α} (builtIn : ∀ sensor ∈ suite.sensors, sensor.isBuiltIn = true)
    (formed : awareness.network.WellFormed) {here : Region α}
    (located : Sensor.currentRegion world agent awareness = .ok here)
    (isKnown : awareness.Knows here.index) :
    Awareness.Reweighed (suite.Due world awareness.network here (· ∈ agent.history)) awareness
      (suite.run world agent awareness).awareness := by
  apply runAll_keeps (Awareness.Reweighed
    (suite.Due world awareness.network here (· ∈ agent.history)) awareness)
  · intro sensor member middle reweighed
    have network := reweighed.grows.network
    have nowLocated : Sensor.currentRegion world agent middle = .ok here := by
      unfold Sensor.currentRegion at located ⊢
      rw [network]
      exact located
    have next := reweighed_of_execute member (builtIn sensor member) (network ▸ formed) nowLocated
      (reweighed.grows.known _ isKnown)
    rw [network] at next
    refine ⟨reweighed.grows.trans next.grows,
      fun region known => reweighed.known region (next.known region known), ?_⟩
    intro connection isConnection
    exact (reweighed.tables connection isConnection).trans
      (next.tables connection (network ▸ isConnection))
  · exact ⟨.refl awareness, fun _ isKnown => isKnown, fun _ _ => .none⟩

theorem mem_standard {field : Option Nat} {settings : Settings α} {sensor : Sensor α}
    (member : sensor ∈ (standard field settings).sensors) :
    sensor = .discovery ∨ sensor = .category settings ∨ sensor = .history settings ∨
      ∃ number, field = some number ∧
        (sensor = .smoke number settings ∨ sensor = .blocked number settings) := by
  cases field with
  | none => simpa [standard] using member
  | some number => simpa [standard] using member

theorem standard_builtIn (field : Option Nat) (settings : Settings α) :
    ∀ sensor ∈ (standard field settings).sensors, sensor.isBuiltIn = true := by
  intro sensor member
  rcases mem_standard member with rfl | rfl | rfl | ⟨number, -, rfl | rfl⟩ <;> rfl

theorem standard_names (field : Option Nat) (settings : Settings α) :
    (standard field settings).names.Nodup := by
  cases field with
  | none =>
    have names : (standard none settings).names =
        ["DiscoverDoorsSensor", "RoomToFloorSensor", "LastDestinationsSensor"] := rfl
    rw [names]
    decide
  | some number =>
    have names : (standard (some number) settings).names =
        ["DiscoverDoorsSensor", "RoomToFloorSensor", "LastDestinationsSensor", "SmokeSensor",
          "BlockedConnectionSensor"] := rfl
    rw [names]
    decide

end Suite

end Egress
