import Egress.Network

/-!
# Hazardous conditions

The state of a building in an emergency: a smoke density for each region that smoke has reached, and
the connections that are blocked.  Sensors read it; it is written by whoever runs the emergency.

References are checked against the network for which the conditions are kept.
-/

namespace Egress

structure Conditions (α : Type) where
  network : Network α
  smoke : Table Int α
  /-- Blocked connections, each once. -/
  blocked : List Nat
  deriving Inhabited

namespace Conditions

variable {α : Type} [Scalar α]

def ofNetwork (network : Network α) : Conditions α := ⟨network, ∅, []⟩

def regionIndex (conditions : Conditions α) (reference : Int) : Except (Fault α) Nat :=
  if 0 ≤ reference ∧ reference < conditions.network.size then .ok reference.toNat
  else .error (.unmonitoredRegion reference)

def connectionIndex (conditions : Conditions α) (reference : Int) : Except (Fault α) Nat :=
  if 0 ≤ reference ∧ reference < conditions.network.connections.length then .ok reference.toNat
  else .error (.unmonitoredConnection reference)

/-- The density in a region; none where smoke never was. -/
def density (conditions : Conditions α) (reference : Int) : Except (Fault α) α := do
  let region ← conditions.regionIndex reference
  return (conditions.smoke.find? region).getD Scalar.zero

def isSmoky (conditions : Conditions α) (reference : Int) : Except (Fault α) Bool := do
  return decide (Scalar.zero < (← conditions.density reference))

def isBlocked (conditions : Conditions α) (reference : Int) : Except (Fault α) Bool := do
  return conditions.blocked.contains (← conditions.connectionIndex reference)

def block (conditions : Conditions α) (reference : Int) : Except (Fault α) (Conditions α) := do
  let index ← conditions.connectionIndex reference
  if conditions.blocked.contains index then return conditions
  else return { conditions with blocked := conditions.blocked ++ [index] }

def unblock (conditions : Conditions α) (reference : Int) : Except (Fault α) (Conditions α) := do
  let index ← conditions.connectionIndex reference
  return { conditions with blocked := conditions.blocked.filter (· != index) }

/-- Write a density. -/
def fill (conditions : Conditions α) (region : Int) (density : α) : Conditions α :=
  { conditions with smoke := conditions.smoke.insert region density }

/-- Remove all smoke and open all connections. -/
def cleared (conditions : Conditions α) : Conditions α :=
  { conditions with smoke := ∅, blocked := [] }

end Conditions

end Egress
