import Egress.Tariff

/-!
# What an agent knows

An agent sees the network through its awareness.  A complete awareness holds the whole network.
An incomplete one holds the regions that the agent has discovered, and discovering a region shows
all connections that leave it; the undiscovered regions behind those connections are the frontier.

Each awareness has a tariff of its own, so agents may disagree about the cost of one door.
-/

namespace Egress

structure Awareness (α : Type) where
  network : Network α
  complete : Bool
  /-- The discovered regions, in order of discovery. -/
  discovered : List Nat
  tariff : Tariff α
  deriving Inhabited

namespace Awareness

variable {α : Type} [Scalar α]

/-- An awareness before any discovery. -/
def ofNetwork (network : Network α) (complete : Bool) (settings : Settings α) : Awareness α :=
  ⟨network, complete, [], Tariff.ofNetwork network settings⟩

/-- Add a region; the flag says whether it was new. -/
def discover (awareness : Awareness α) (reference : Int) :
    Except (Fault α) (Awareness α × Bool) := do
  let index ← awareness.network.indexOf reference
  if awareness.complete || awareness.discovered.contains index then return (awareness, false)
  else return ({ awareness with discovered := awareness.discovered ++ [index] }, true)

/-- Whether a region is known.  A complete awareness does not look at the reference. -/
def knows (awareness : Awareness α) (reference : Int) : Except (Fault α) Bool :=
  if awareness.complete then .ok true
  else do
    return awareness.discovered.contains (← awareness.network.indexOf reference)

/-- The known connections leaving a region. -/
def edgesFrom (awareness : Awareness α) (reference : Int) :
    Except (Fault α) (List (Connection α)) := do
  if ← awareness.knows reference then awareness.network.outgoing reference else return []

def knownRegions (awareness : Awareness α) : Except (Fault α) (List (Region α)) :=
  if awareness.complete then .ok awareness.network.regions
  else awareness.discovered.mapM fun index => awareness.network.region index

/-- The undiscovered ends of the connections in a list, in order of first appearance after those
already seen. -/
def newEnds (discovered : List Nat) (seen : List Int) (connections : List (Connection α)) :
    List Int :=
  connections.foldl (fun seen connection =>
    match connection.destination with
    | some index =>
      if (discovered.map Int.ofNat).contains index || seen.contains index then seen
      else seen ++ [index]
    | none => seen) seen

/-- The indices of the frontier, in order of first appearance. -/
def frontierIndices (awareness : Awareness α) : List Int :=
  if awareness.complete then []
  else awareness.discovered.foldl (fun seen index =>
    newEnds awareness.discovered seen (awareness.network.leaving index)) []

/-- Regions that a known connection leads to and that are not yet discovered. -/
def frontier (awareness : Awareness α) : Except (Fault α) (List (Region α)) :=
  awareness.frontierIndices.mapM fun index => awareness.network.regionAt index

/-- The effective weight of a connection for this agent. -/
def weight (awareness : Awareness α) (reference : Int) : Except (Fault α) α :=
  awareness.tariff.weight reference

end Awareness

end Egress
