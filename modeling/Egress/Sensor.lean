import Egress.Agent
import Egress.Awareness
import Egress.Conditions
import Egress.Survey

/-!
# Sensors

A sensor looks at the connections leaving the region in which an agent stands, whether or not the
agent knows that region, and reports a cost factor for each.  Executing a sensor writes its report
into the agent's tariff under the sensor's name.  A report holds factors as the settings give them.
One with a value that is no factor is refused as a whole; one that names a missing connection is
written up to there.

The built-in sensors are discovery, which writes nothing and makes the current region known, and
four that judge doors by the category behind them, by the agent's history, by smoke and by blocked
doors.
-/

namespace Egress

/-- What sensors see apart from the agent: the building, and the conditions kept under each number.
A sensor that reads conditions holds their number, so it sees them as they are when it is run. -/
structure World (α σ : Type) where
  building : Building α σ
  conditions : Nat → Conditions α

/-- What a sensor from outside reports, whatever the agent does. -/
inductive Report (α : Type) where
  | factors (table : Table Int α)
  | fault (fault : Fault α)
  /-- The agent's position is in no region, as far as the sensor can tell. -/
  | lost
  deriving Inhabited

inductive Sensor (α : Type) where
  /-- A sensor without an observation. -/
  | blank
  | discovery
  | category (settings : Settings α)
  | history (settings : Settings α)
  | smoke (field : Nat) (settings : Settings α)
  | blocked (field : Nat) (settings : Settings α)
  | custom (name : String) (report : Report α)

namespace Sensor

variable {α σ : Type}

/-- The name under which a sensor writes. -/
def name : Sensor α → String
  | blank => "Sensor"
  | discovery => "DiscoverDoorsSensor"
  | category _ => "RoomToFloorSensor"
  | history _ => "LastDestinationsSensor"
  | smoke _ _ => "SmokeSensor"
  | blocked _ _ => "BlockedConnectionSensor"
  | custom name _ => name

variable [Scalar α]

/-- The factor that changes nothing. -/
def neutral : Value α := .real Scalar.one

/-- The factor for moving from one category into another: a neutral one for the same category. -/
def categoryFactor (settings : Settings α) (source target : String) :
    Except (Fault α) (Value α) :=
  if target = source then .ok neutral
  else
    match Category.ofLabel? target with
    | none => .error (.noCategoryFactor target)
    | some kind => .ok (settings.categoryFactor kind)

/-- The regions that an agent remembers having left, as far back as the settings say. -/
def remembered (settings : Settings α) (agent : Agent α) : Except (Fault α) (List Int) :=
  match (settings.value .memory).number? with
  | none => .error .wrongType
  | some depth =>
    if Scalar.zero < depth then
      match (settings.value .memory).integer? with
      | some count => .ok (Agent.recent (some count.toNat) agent.history)
      | none => .error .wrongType
    else .ok []

/-- Report on each connection, in order. -/
def reportOn (connections : List (Connection α))
    (judge : Connection α → Except (Fault α) (Value α)) :
    Except (Fault α) (Table Int (Value α)) := do
  let entries ← connections.mapM fun connection => do
    return ((connection.index : Int), ← judge connection)
  return Table.ofList entries

variable [Outline σ α]

/-- The region in which an agent stands. -/
def currentRegion (world : World α σ) (agent : Agent α) (awareness : Awareness α) :
    Except (Fault α) (Region α) :=
  awareness.network.regionFor world.building agent.position agent.floor

/-- What a sensor reports, without writing it. -/
def observe (world : World α σ) (agent : Agent α) (awareness : Awareness α) :
    Sensor α → Except (Fault α) (Table Int (Value α))
  | blank => .error .unsupported
  | discovery => .ok ∅
  | category settings => do
    let source ← currentRegion world agent awareness
    reportOn (awareness.network.leaving source.index) fun connection =>
      match connection.destination with
      | none => .ok neutral
      | some destination => do
        let target ← awareness.network.regionAt destination
        categoryFactor settings source.category target.category
  | history settings => do
    let recent ← remembered settings agent
    let source ← currentRegion world agent awareness
    reportOn (awareness.network.leaving source.index) fun connection =>
      .ok (if connection.destination.any recent.contains then settings.value .returnFactor
        else neutral)
  | smoke field settings => do
    let source ← currentRegion world agent awareness
    reportOn (awareness.network.leaving source.index) fun connection => do
      let density ← match connection.destination with
        | none => .ok Scalar.zero
        | some destination => (world.conditions field).density destination
      return .real (Scalar.one + (← settings.number .smokeScale) * density)
  | blocked field settings => do
    let source ← currentRegion world agent awareness
    reportOn (awareness.network.leaving source.index) fun connection => do
      return if ← (world.conditions field).isBlocked connection.index
        then settings.value .blockedFactor else neutral
  | custom _ report =>
    match report with
    | .factors table => .ok (table.mapValues fun _ factor => .real factor)
    | .fault fault => .error fault
    | .lost => .error (.unlocated agent.position)

/-- Write a report entry by entry, up to the first that fails. -/
def write (name : String) (tariff : Tariff α) :
    List (Int × α) → Tariff α × Except (Fault α) Unit
  | [] => (tariff, .ok ())
  | (reference, factor) :: rest =>
    match tariff.setFactor reference name factor with
    | .ok tariff => write name tariff rest
    | .error fault => (tariff, .error fault)

/-- The factors of a report.  A report with a value that is no factor is refused. -/
def factorsIn (name : String) (report : Table Int (Value α)) :
    Except (Fault α) (List (Int × α)) :=
  report.entries.mapM fun (reference, value) => do
    let factor ← value.number
    if Scalar.isFactor factor then return (reference, factor)
    else throw (.invalidFactor name factor)

/-- Observe and write.  The result is the number of factors written. -/
def execute (sensor : Sensor α) (world : World α σ) (agent : Agent α) (awareness : Awareness α) :
    Awareness α × Except (Fault α) Nat :=
  match sensor with
  | discovery =>
    match currentRegion world agent awareness with
    | .error fault => (awareness, .error fault)
    | .ok region =>
      match awareness.discover region.index with
      | .error fault => (awareness, .error fault)
      | .ok (awareness, _) => (awareness, .ok 0)
  | sensor =>
    match sensor.observe world agent awareness with
    | .error fault => (awareness, .error fault)
    | .ok report =>
      match factorsIn sensor.name report with
      | .error fault => (awareness, .error fault)
      | .ok factors =>
        let (tariff, result) := write sensor.name awareness.tariff factors
        ({ awareness with tariff }, result.map fun _ => factors.length)

end Sensor

end Egress
