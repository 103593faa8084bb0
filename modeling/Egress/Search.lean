import Egress.Awareness
import Egress.Heap

/-!
# Least costs from a region

The search settles regions one at a time, the cheapest unsettled one first, and relaxes the
connections that leave it.  Regions wait in a heap ordered by cost; of equal costs the one that
came first goes first, so the outcome depends on nothing but the order of the connections.  A
region may wait more than once, with a smaller cost each time, and is settled at its first turn.

Every connection is relaxed at most once, since it is relaxed when its source is settled.  This
bounds the number of turns whatever the costs are.
-/

namespace Egress

/-- The least cost found for a region, and the region it was reached from. -/
structure Label (α : Type) where
  cost : α
  previous : Option Int
  deriving Repr, Inhabited

abbrev Labels (α : Type) := Table Int (Label α)

namespace Search

variable {α : Type} [Scalar α]

/-- A region that waits to be settled. -/
structure Waiting (α : Type) where
  cost : α
  /-- How many regions were made to wait before it. -/
  order : Nat
  region : Int
  deriving Repr, Inhabited

/-- The cheaper region comes first, and of two with one cost the one that has waited longer. -/
def Waiting.before (first second : Waiting α) : Bool :=
  if first.cost ≤ second.cost ∧ second.cost ≤ first.cost then decide (first.order < second.order)
  else decide (first.cost < second.cost)

structure State (α : Type) where
  labels : Labels α
  /-- Settled regions, the latest first. -/
  settled : List Int
  /-- Waiting regions. -/
  queue : Array (Waiting α)
  /-- How many regions were made to wait so far. -/
  count : Nat
  deriving Inhabited

/-- Let a region wait. -/
def enqueue (state : State α) (cost : α) (region : Int) : State α :=
  { state with
    queue := Heap.push Waiting.before state.queue ⟨cost, state.count, region⟩
    count := state.count + 1 }

def start (source : Nat) : State α :=
  enqueue ⟨(∅ : Labels α).insert source ⟨Scalar.zero, none⟩, [], #[], 0⟩ Scalar.zero source

/-- Whether a cost improves on what is known of a region. -/
def improves (labels : Labels α) (region : Int) (cost : α) : Bool :=
  match labels.find? region with
  | none => true
  | some label => decide (cost < label.cost)

/-- Follow one connection from a region just settled at a cost. -/
def relax (source : Int) (reached : α) (state : State α) (arc : Int × α) : State α :=
  let cost := reached + arc.2
  if improves state.labels arc.1 cost then
    enqueue { state with labels := state.labels.insert arc.1 ⟨cost, some source⟩ } cost arc.1
  else state

/-- Take turns until the queue is empty or the goal is settled.  `arcs settled region` gives the
connections from a region to unsettled regions, with their weights. -/
def run {ε : Type} (arcs : List Int → Int → Except ε (List (Int × α))) (goal : Option Int) :
    Nat → State α → Except ε (State α)
  | 0, state => .ok state
  | turns + 1, state =>
    match Heap.pop? Waiting.before state.queue with
    | none => .ok state
    | some (next, queue) =>
      if state.settled.contains next.region then run arcs goal turns { state with queue }
      else
        let settled := next.region :: state.settled
        let state := { state with queue, settled }
        if goal = some next.region then .ok state
        else
          match arcs settled next.region with
          | .error fault => .error fault
          | .ok found => run arcs goal turns (found.foldl (relax next.region next.cost) state)

end Search

namespace Awareness

variable {α : Type} [Scalar α]

/-- The known connections from a region to regions that are not settled, with their weights. -/
def openArcs (awareness : Awareness α) (settled : List Int) (region : Int) :
    Except (Fault α) (List (Int × α)) := do
  let connections ← awareness.edgesFrom region
  let ahead := connections.filterMap fun connection =>
    connection.destination.bind fun destination =>
      if settled.contains destination then none else some (destination, connection.index)
  ahead.mapM fun (destination, index) => do
    return (destination, ← awareness.weight index)

/-- The state in which the search from a region ends.  There are no more turns than one and the
number of connections, and one more finds the queue empty. -/
def search (awareness : Awareness α) (source : Nat) (goal : Option Nat) :
    Except (Fault α) (Search.State α) :=
  Search.run awareness.openArcs (goal.map Int.ofNat) (awareness.network.connections.length + 2)
    (Search.start source)

/-- Least costs over the known connections, from a region; with a goal, everything labelled by the
time the goal is settled. -/
def distances (awareness : Awareness α) (source : Int) (goal : Option Int) :
    Except (Fault α) (Labels α) := do
  let source ← awareness.network.indexOf source
  let goal ← goal.mapM fun reference => awareness.network.indexOf reference
  return (← awareness.search source goal).labels

end Awareness

end Egress
