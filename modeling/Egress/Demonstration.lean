import Egress.Building.Office
import Egress.Guidance
import Egress.Outbreak
import Egress.Polygon
import Egress.SettingsFile
import Egress.Twister
import Egress.Wording

/-!
# A demonstration run

Two agents leave the standard office while smoke spreads from one of its rooms.  One knows the whole
building, the other only the room in which it starts and what it discovers on its way: while it
knows no way to the entrance it walks to the cheapest region of its frontier.  The run ends when
both have reached the entrance, or after a bounded number of steps, and tells the smoke densities at
the end.
-/

namespace Egress.Demonstration

def steps : Nat := 60

def seed : UInt32 := 42

/-- The state of a run with the lines told so far. -/
structure State where
  building : Building Float Polygon
  outbreak : Outbreak Float Twister
  guidance : Guidance Float
  exit : Goal Float Polygon
  lines : List String

abbrev Act := ExceptT (Fault Float) (StateM State)

def tell (lines : List String) : Act Unit :=
  modify fun state => { state with lines := state.lines ++ lines }

def world (state : State) : World Float Polygon :=
  ⟨state.building, fun _ => state.outbreak.conditions⟩

/-- Take the result of a call apart from the state it leaves. -/
def check {β : Type} : Except (Fault Float) β → Act β
  | .ok value => return value
  | .error fault => throw fault

/-- Where an agent goes: its next hop to the entrance, or the cheapest frontier region, if any. -/
def choose (pid : Int) (time : Value Float) : Act (Option (Hop Float)) := do
  let state ← get
  let (result, notices) :=
    state.guidance.nextHop state.building pid (.named "ENTRANCE") time
  tell (notices.map Notice.line)
  match result with
  | .ok hop => return some hop
  | .error fault =>
    if fault.kind == .noRoute then
      return (← check (state.guidance.frontier pid)).head?.map Hop.region
    else throw fault

def stamp (time : Nat) : String := "[T=" ++ Number.padded 2 time ++ "] "

/-- One agent walks to its next hop, and leaves if it has reached the entrance. -/
def walk (time : Nat) (pid : Int) : Act Unit := do
  let some hop ← choose pid (.int time) | return
  let target := match hop with
    | .region region => region.centre
    | .point point => point
  let state ← get
  let (guidance, result) := state.guidance.move (world state) pid target none
  set { state with guidance }
  let region ← check result
  let member ← check (guidance.member pid)
  let known ← check member.awareness.knownRegions
  let smoke := if member.agent.inSmoke then "yes" else "no"
  tell [stamp time ++ "Agent " ++ toString pid ++ " -> " ++ region.id ++ " (known=" ++
    toString known.length ++ ", smoke=" ++ smoke ++ ")"]
  let (reached, exit) := state.exit.visit member.agent
  modify fun state => { state with exit }
  if reached then
    let (_, guidance) ← check (guidance.removeAgent pid)
    modify fun state => { state with guidance }
    tell [stamp time ++ "Agent " ++ toString pid ++ " reached the entrance"]

/-- One step: smoke spreads, sensors look, and every agent walks. -/
def step (time : Nat) : Act Unit := do
  let state ← get
  let (result, outbreak) := Outbreak.spread.run state.outbreak
  set { state with outbreak }
  let _ ← check result
  let state ← get
  let (guidance, report) := state.guidance.step (world state) (.int time)
  set { state with guidance }
  tell (report.notices.map Notice.line)
  if let some fault := report.escaped then throw fault
  guidance.members.keys.forM (walk time)

/-- Steps until nobody is left. -/
def loop : Nat → Nat → Act Unit
  | 0, _ => return
  | more + 1, time => do
    step time
    if (← get).guidance.members.isEmpty then tell ["All agents out. Stop early."]
    else loop more (time + 1)

/-- The densities at the end, in order of regions. -/
def summary : Act Unit := do
  let conditions := (← get).outbreak.conditions
  let densities := conditions.smoke.entries.mergeSort fun first second =>
    decide (first.1 ≤ second.1)
  tell ["", "Smoke densities:"]
  densities.forM fun (index, density) => do
    let region ← check (conditions.network.regionAt index)
    tell ["  - " ++ region.id ++ ": " ++ Number.fixed 2 density]

/-- A new agent without a history. -/
def newcomer (pid : Int) (position : Point Float) : Agent Float :=
  { pid, position, floor := none, region := none, flags := [], history := [], bound := none,
    spawnTime := 0 }

/-- The state before the first step. -/
def prepare (settings : Settings Float) : Except (Fault Float) State := do
  let (office, built) : Building Float Polygon × _ := Building.empty.addOffice 0 ""
  built
  let building := office.indexed
  let network ← building.network settings
  let fresh := Outbreak.ofNetwork network settings (Twister.ofSeed seed)
  let outbreak ← fresh.ignite (← network.regionNamed "RT1").index none
  let suite := Suite.standard (some 0) settings
  let empty := Guidance.ofNetwork network suite (some 0) settings
  let surroundings : World Float Polygon := ⟨building, fun _ => outbreak.conditions⟩
  let one ← empty.addAgent surroundings
    (newcomer 0 (← network.regionNamed "RT2").centre) (some true)
  let guidance ← one.addAgent surroundings
    (newcomer 1 (← network.regionNamed "RB0").centre) (some false)
  let entrance ← building.room "ENTRANCE"
  let exit ← Goal.ofExit (Outline.vertices entrance.shape) []
  return { building, outbreak, guidance, exit, lines := [] }

def title : List String := ["Hazard-aware routing demo", "".pushn '=' 60]

/-- The lines told by a run, and the fault that ended it, if one did. -/
def run (settings : Except (Fault Float) (Settings Float)) :
    List String × Option (Fault Float) :=
  match settings.bind prepare with
  | .error fault => (title, some fault)
  | .ok state =>
    let (result, state) := (do loop steps 0; summary : Act Unit).run state
    (title ++ state.lines, match result with
      | .ok () => none
      | .error fault => some fault)

/-- The settings of a run without a file: the defaults, told in full. -/
def usualSettings : Except (Fault Float) (Settings Float) :=
  Settings.ofEntries [(.text Setting.verbose.key, .bool true)]

end Egress.Demonstration
