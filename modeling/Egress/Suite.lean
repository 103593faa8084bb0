import Egress.Sensor

/-!
# Suites of sensors

A suite runs its sensors in order for one agent at a time.  A sensor that fails with a planning
fault is skipped and reported, and the others still run.  Any other fault, and a factor that is
none, ends the run there and is passed on.

The names in a suite are distinct, so no sensor writes over the factors of another.
-/

namespace Egress

/-- Something worth telling whoever watches. -/
inductive Notice (α : Type) where
  | skipped (time : Value α) (sensor : String) (agent : Int) (fault : Fault α)
  | unlocated (time : Value α) (agent : Int) (fault : Fault α)
  deriving Inhabited

structure Suite (α : Type) where
  sensors : List (Sensor α)
  verbose : Bool
  deriving Inhabited

/-- What a run leaves: the awareness, the failures of skipped sensors, and the fault that ended the
run, if one did. -/
structure Run (α : Type) where
  awareness : Awareness α
  failures : List (String × Fault α)
  escaped : Option (Fault α)

namespace Suite

variable {α σ : Type}

def empty (verbose : Bool) : Suite α := ⟨[], verbose⟩

def names (suite : Suite α) : List String := suite.sensors.map Sensor.name

def add (suite : Suite α) (sensor : Sensor α) : Except (Fault α) (Suite α) :=
  if suite.names.contains sensor.name then .error (.duplicateSensor sensor.name)
  else .ok { suite with sensors := suite.sensors ++ [sensor] }

/-- The suite of the given sensors. -/
def ofList (sensors : List (Sensor α)) (verbose : Bool) : Except (Fault α) (Suite α) :=
  sensors.foldlM add (empty verbose)

/-- Take a sensor out. -/
def remove (suite : Suite α) (name : String) : Except (Fault α) (Sensor α × Suite α) :=
  match suite.sensors.find? fun sensor => sensor.name == name with
  | some sensor =>
    .ok (sensor, { suite with
      sensors := suite.sensors.eraseP fun sensor => sensor.name == name })
  | none => .error (.noSensorNamed name)

variable [Scalar α]

/-- Take a sensor out and drop its factors from what some agents know. -/
def disable (suite : Suite α) (name : String) (maps : List (Awareness α)) :
    Except (Fault α) (Sensor α × Suite α × List (Awareness α)) := do
  let (sensor, suite) ← suite.remove name
  return (sensor, suite, maps.map fun awareness =>
    { awareness with tariff := (awareness.tariff.clear name).1 })

/-- The usual sensors: discovery, categories, history, and with conditions to read also smoke and
blocked doors. -/
def standard (field : Option Nat) (settings : Settings α) : Suite α where
  sensors := [.discovery, .category settings, .history settings] ++
    match field with
    | some field => [.smoke field settings, .blocked field settings]
    | none => []
  verbose := (settings.value .verbose).truthy

variable [Outline σ α]

/-- Run sensors one after another. -/
def runAll (world : World α σ) (agent : Agent α) (awareness : Awareness α) :
    List (Sensor α) → Run α
  | [] => ⟨awareness, [], none⟩
  | sensor :: rest =>
    match sensor.execute world agent awareness with
    | (awareness, .ok _) => runAll world agent awareness rest
    | (awareness, .error fault) =>
      if fault.skipsSensor then
        let run := runAll world agent awareness rest
        { run with failures := (sensor.name, fault) :: run.failures }
      else ⟨awareness, [], some fault⟩

/-- Run a suite for one agent. -/
def run (suite : Suite α) (world : World α σ) (agent : Agent α) (awareness : Awareness α) : Run α :=
  runAll world agent awareness suite.sensors

/-- What a verbose suite tells about a run. -/
def notices (suite : Suite α) (time : Value α) (agent : Agent α) (run : Run α) :
    List (Notice α) :=
  if suite.verbose then
    run.failures.map fun (sensor, fault) => .skipped time sensor agent.pid fault
  else []

end Suite

end Egress
