import Egress.Point

/-!
# Agents

An agent walks through the building.  It has a position and a floor, the region in which it was last
located, the hazards it is exposed to, and a history of the regions it left, the most recent last.
A bounded history forgets its oldest regions.
-/

namespace Egress

structure Agent (α : Type) where
  pid : Int
  position : Point α
  /-- The floor the agent stands on, if it matters. -/
  floor : Option Int
  region : Option Int
  /-- The hazards that the agent is exposed to, each once. -/
  flags : List String
  history : List Int
  /-- How many regions the history holds, if it is bounded. -/
  bound : Option Nat
  spawnTime : α
  deriving Repr, Inhabited

namespace Agent

variable {α : Type}

/-- The most recent entries of a history within a bound. -/
def recent (bound : Option Nat) (history : List Int) : List Int :=
  match bound with
  | none => history
  | some most => history.drop (history.length - most)

/-- Replace the history, as far as the bound admits. -/
def withHistory (agent : Agent α) (history : List Int) : Agent α :=
  { agent with history := recent agent.bound history }

/-- Remember one more region. -/
def remember (agent : Agent α) (region : Int) : Agent α :=
  agent.withHistory (agent.history ++ [region])

/-- Bound the history. -/
def bounded (agent : Agent α) (bound : Nat) : Agent α :=
  { agent with bound := some bound, history := recent (some bound) agent.history }

def smokeFlag : String := "smoke"

def inSmoke (agent : Agent α) : Bool := agent.flags.contains smokeFlag

/-- Set or clear the smoke flag. -/
def exposed (agent : Agent α) (smoky : Bool) : Agent α :=
  if smoky then
    if agent.inSmoke then agent else { agent with flags := agent.flags ++ [smokeFlag] }
  else { agent with flags := agent.flags.filter (· != smokeFlag) }

end Agent

end Egress
