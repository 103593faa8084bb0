import Egress.Goal
import Egress.Ranking
import Egress.Route
import Egress.Suite

/-!
# Guidance of agents

Guidance keeps one awareness for each registered agent.  In each step of a simulation, agents that
moved are located again, the suite of sensors is run for every agent, and each agent asks for its
next hop: the region to walk to, or a point once it stands in the target region.  An agent whose
target is out of reach of what it knows falls back on its frontier, cheapest region first.

The network, the building and the conditions are shared and never changed here.  A call for one
agent touches no other agent.
-/

namespace Egress

/-- Where to go next. -/
inductive Hop (α : Type) where
  | region (region : Region α)
  | point (point : Point α)
  deriving Inhabited

/-- What an agent is sent to. -/
inductive Target (α σ : Type) where
  | index (reference : Int)
  | named (id : String)
  | region (region : Region α)
  | goal (goal : Goal α σ)

/-- A registered agent with what it knows. -/
structure Member (α : Type) where
  agent : Agent α
  awareness : Awareness α
  deriving Inhabited

structure Guidance (α : Type) where
  network : Network α
  suite : Suite α
  /-- The number of the conditions that agents are exposed to, if there are any. -/
  field : Option Nat
  settings : Settings α
  members : Table Int (Member α)

namespace Awareness

variable {α σ : Type} [Scalar α] [Outline σ α]

/-- Where an agent should go next to get to a region: to its centre if the agent stands in it, and
otherwise to the second region of its route. -/
def nextHop (awareness : Awareness α) (building : Building α σ) (agent : Agent α) (target : Int) :
    Except (Fault α) (Hop α) := do
  let source ← awareness.network.regionFor building agent.position agent.floor
  let goal ← awareness.network.region (← awareness.network.indexOf target)
  if source.index = goal.index then return .point goal.centre
  match ← awareness.route source.index goal.index with
  | _ :: next :: _ => return .region (← awareness.network.regionAt next)
  | _ => throw .outOfRange

end Awareness

namespace Guidance

variable {α σ : Type} [Scalar α]

def ofNetwork (network : Network α) (suite : Suite α) (field : Option Nat)
    (settings : Settings α) : Guidance α :=
  ⟨network, suite, field, settings, ∅⟩

def member (guidance : Guidance α) (pid : Int) : Except (Fault α) (Member α) :=
  match guidance.members.find? pid with
  | some member => .ok member
  | none => .error (.unregistered pid)

def setMember (guidance : Guidance α) (pid : Int) (member : Member α) : Guidance α :=
  { guidance with members := guidance.members.insert pid member }

/-- The longest history that can be kept. -/
def longestHistory : Nat := 0x7FFFFFFFFFFFFFFF

/-- How many regions a registered agent remembers: at least one. -/
def historyBound (settings : Settings α) : Except (Fault α) Nat :=
  match (settings.value .memory).number? with
  | none => .error .wrongType
  | some depth =>
    if Scalar.one < depth then
      match (settings.value .memory).integer? with
      | some count => if count ≤ longestHistory then .ok count.toNat else .error .tooLarge
      | none => .error .wrongType
    else .ok 1

def removeAgent (guidance : Guidance α) (pid : Int) :
    Except (Fault α) (Agent α × Guidance α) := do
  let member ← guidance.member pid
  return (member.agent, { guidance with members := guidance.members.erase pid })

variable [Outline σ α]

/-- Set an agent's flags by the smoke in its region. -/
def expose (guidance : Guidance α) (world : World α σ) (region : Region α) (agent : Agent α) :
    Except (Fault α) (Agent α) :=
  match guidance.field with
  | none => .ok agent
  | some field => do
    return agent.exposed (← (world.conditions field).isSmoky region.index)

/-- Register an agent where it stands. -/
def addAgent (guidance : Guidance α) (world : World α σ) (agent : Agent α)
    (complete : Option Bool) : Except (Fault α) (Guidance α) := do
  if guidance.members.contains agent.pid then throw (.duplicateAgent agent.pid)
  let complete := complete.getD (guidance.settings.value .fullKnowledge).truthy
  let region ← guidance.network.regionFor world.building agent.position agent.floor
  let blank := Awareness.ofNetwork guidance.network complete guidance.settings
  let (awareness, _) ← blank.discover region.index
  let bound ← historyBound guidance.settings
  let located := { agent with region := some region.index }
  let agent ← guidance.expose world region (located.bounded bound)
  return guidance.setMember agent.pid ⟨agent, awareness⟩

/-- Enter a region that was not the agent's region: remember the one left, if any, and discover the
new one. -/
def enter (member : Member α) (region : Region α) : Except (Fault α) (Member α) :=
  if member.agent.region = some region.index then .ok member
  else do
    let (awareness, _) ← member.awareness.discover region.index
    let agent := match member.agent.region with
      | some left => member.agent.remember left
      | none => member.agent
    return ⟨{ agent with region := some region.index }, awareness⟩

/-- Move an agent.  A position in no region changes nothing.  If the conditions do not know the
region, the agent has moved all the same. -/
def move (guidance : Guidance α) (world : World α σ) (pid : Int) (position : Point α)
    (floor : Option Int) : Guidance α × Except (Fault α) (Region α) :=
  match guidance.member pid with
  | .error fault => (guidance, .error fault)
  | .ok member =>
    match guidance.network.regionFor world.building position (floor <|> member.agent.floor) with
    | .error fault => (guidance, .error fault)
    | .ok region =>
      let moved := { member.agent with position, floor := floor <|> member.agent.floor }
      match enter { member with agent := moved } region with
      | .error fault => (guidance, .error fault)
      | .ok entered =>
        match guidance.expose world region entered.agent with
        | .error fault => (guidance.setMember pid entered, .error fault)
        | .ok agent => (guidance.setMember pid { entered with agent }, .ok region)

/-- What a step leaves: the failures of each agent that has some, what there is to tell, and the
fault that ended the step, if one did. -/
structure StepReport (α : Type) where
  failures : List (Int × List (String × Fault α))
  notices : List (Notice α)
  escaped : Option (Fault α)

/-- Run the suite for agents one after another. -/
def stepAll (world : World α σ) (time : Value α) (guidance : Guidance α) :
    List Int → Guidance α × StepReport α
  | [] => (guidance, ⟨[], [], none⟩)
  | pid :: rest =>
    match guidance.members.find? pid with
    | none => stepAll world time guidance rest
    | some member =>
      let run := guidance.suite.run world member.agent member.awareness
      let guidance := guidance.setMember pid { member with awareness := run.awareness }
      let notices := guidance.suite.notices time member.agent run
      match run.escaped with
      | some fault => (guidance, ⟨[], notices, some fault⟩)
      | none =>
        let (guidance, report) := stepAll world time guidance rest
        (guidance, { report with
          failures := if run.failures.isEmpty then report.failures
            else (pid, run.failures) :: report.failures
          notices := notices ++ report.notices })

/-- Run the suite for every agent, in order of registration. -/
def step (guidance : Guidance α) (world : World α σ) (time : Value α) :
    Guidance α × StepReport α :=
  stepAll world time guidance guidance.members.keys

/-- The region that a target stands for. -/
def resolve (guidance : Guidance α) (building : Building α σ) (floor : Option Int) :
    Target α σ → Except (Fault α) (Region α)
  | .region region => .ok region
  | .named id => guidance.network.regionNamed id
  | .goal goal => guidance.network.regionFor building goal.target floor
  | .index reference => do guidance.network.region (← guidance.network.indexOf reference)

/-- The next hop of an agent, and what there is to tell. -/
def nextHop (guidance : Guidance α) (building : Building α σ) (pid : Int) (target : Target α σ)
    (time : Value α) : Except (Fault α) (Hop α) × List (Notice α) :=
  match guidance.member pid with
  | .error fault => (.error fault, [])
  | .ok member =>
    match guidance.resolve building member.agent.floor target with
    | .error fault => (.error fault, [])
    | .ok goal =>
      match member.awareness.nextHop building member.agent goal.index with
      | .ok hop => (.ok hop, [])
      | .error fault =>
        let told := (guidance.settings.value .verbose).truthy && fault.kind == .unlocated
        (.error fault, if told then [.unlocated time pid fault] else [])

/-- What asking for several agents gives: hops, and the faults of agents that are skipped. -/
structure HopReport (α : Type) where
  hops : Table Int (Hop α)
  failed : Table Int (Fault α)
  notices : List (Notice α)
  escaped : Option (Fault α)

/-- The next hops of several agents.  An agent that cannot be located or has no route is skipped;
any other fault ends the call. -/
def nextHops (guidance : Guidance α) (building : Building α σ) (time : Value α) :
    List (Int × Target α σ) → HopReport α
  | [] => ⟨∅, ∅, [], none⟩
  | targets => targets.foldl (fun report (pid, target) =>
      if report.escaped.isSome then report
      else
        let (result, notices) := guidance.nextHop building pid target time
        let report := { report with notices := report.notices ++ notices }
        match result with
        | .ok hop => { report with hops := report.hops.insert pid hop }
        | .error fault =>
          if fault.kind == .unlocated || fault.kind == .noRoute then
            { report with failed := report.failed.insert pid fault }
          else { report with escaped := some fault })
    ⟨∅, ∅, [], none⟩

omit [Outline σ α] in
/-- Whether a cost is beyond all bounds, as that of a region out of reach is. -/
def isBoundless (cost : Option α) : Bool :=
  cost.all fun cost => !Scalar.isFinite cost && decide (Scalar.zero < cost)

omit [Outline σ α] in
/-- Whether one region comes before another in a ranking by cost: the one that costs less to reach,
and of equal ones the one with the smaller index.  Regions out of reach come last, with those whose
cost is beyond all bounds; a cost that is not a number comes before none and after none. -/
def nearer (labels : Labels α) (first second : Region α) : Bool :=
  let cost := fun region : Region α => (labels.find? region.index).map Label.cost
  let byIndex := decide (first.index < second.index)
  match cost first, cost second with
  | some a, some b =>
    if a ≤ b ∧ b ≤ a then byIndex else decide (a < b)
  | some a, none => if isBoundless (some a) then byIndex else decide (a ≤ a)
  | none, some b => isBoundless (some b) && byIndex
  | none, none => byIndex

omit [Outline σ α] in
/-- The frontier of an agent, cheapest region first. -/
def frontier (guidance : Guidance α) (pid : Int) : Except (Fault α) (List (Region α)) := do
  let member ← guidance.member pid
  let regions ← member.awareness.frontier
  match member.agent.region with
  | none => return regions
  | some here =>
    if regions.isEmpty then return []
    let labels ← member.awareness.distances here none
    return Ranking.ofList (nearer labels) regions

end Guidance

end Egress
