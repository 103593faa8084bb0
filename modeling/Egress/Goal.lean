import Egress.Agent
import Egress.Building

/-!
# Goals

A waypoint is reached within a distance of a point; an exit is reached inside an area, and notes the
agents that reach it, so that they can be taken out of the building.
-/

namespace Egress

inductive Goal (α σ : Type) where
  | waypoint (position : Point α) (within : α)
  | exit (area : σ) (leaving : List Int)
  deriving Inhabited

namespace Goal

variable {α σ : Type} [Scalar α] [Outline σ α]

omit [Outline σ α] in
def ofWaypoint (position : Point α) (within : α) : Except (Fault α) (Goal α σ) :=
  if within < Scalar.zero then .error (.negativeDistance within)
  else .ok (.waypoint position within)

def ofExit (points : List (Point α)) (leaving : List Int) : Except (Fault α) (Goal α σ) :=
  match (Outline.ofPoints points : Except OutlineFlaw σ) with
  | .ok area =>
    if Outline.area area ≤ Scalar.zero then .error .badExitArea else .ok (.exit area leaving)
  | .error .tooFewPoints => .error .tooFewPoints
  | .error .notSimple => .error .badExitArea

/-- The point to head for. -/
def target : Goal α σ → Point α
  | waypoint position _ => position
  | exit area _ => Outline.centre area

/-- The agents noted so far. -/
def leaving : Goal α σ → List Int
  | waypoint _ _ => []
  | exit _ agents => agents

variable [Metric α]

/-- Whether an agent has reached a goal, and the goal after it was asked. -/
def visit (goal : Goal α σ) (agent : Agent α) : Bool × Goal α σ :=
  match goal with
  | waypoint position within =>
    (decide (Metric.distance agent.position position ≤ within), goal)
  | exit area agents =>
    if Outline.covers area agent.position then (true, exit area (agents ++ [agent.pid]))
    else (false, goal)

end Goal

end Egress
