import Egress.Search

/-!
# Routes

A route is the list of regions on a least-cost way through what an agent knows.  It is read off the
labels of a search by going back from the goal; going back ends because every region was labelled
from one settled before it.
-/

namespace Egress

/-- Go back from a region to where the search started, in front of the regions already passed. -/
def Labels.backtrack {α : Type} (labels : Labels α) : Nat → Int → List Int → List Int
  | 0, region, passed => region :: passed
  | steps + 1, region, passed =>
    match (labels.find? region).bind Label.previous with
    | none => region :: passed
    | some previous => labels.backtrack steps previous (region :: passed)

namespace Awareness

variable {α : Type} [Scalar α]

/-- The regions on the cheapest known way, both ends included. -/
def route (awareness : Awareness α) (source goal : Int) : Except (Fault α) (List Int) := do
  let start ← awareness.network.indexOf source
  let stop ← awareness.network.indexOf goal
  if start = stop then return [(start : Int)]
  if !(← awareness.knows stop) then throw (.noRoute start stop)
  let labels := (← awareness.search start (some stop)).labels
  if labels.contains stop then return labels.backtrack labels.size stop []
  else throw (.noRoute start stop)

/-- The total weight of the connections between consecutive regions. -/
def routeCost (awareness : Awareness α) : List Int → Except (Fault α) α :=
  let rec addUp (total : α) : List Int → Except (Fault α) α
    | source :: target :: rest => do
      match ← awareness.network.connectionBetween source target with
      | none => throw (.notConnected source target)
      | some connection => addUp (total + (← awareness.weight connection.index)) (target :: rest)
    | _ => .ok total
  addUp Scalar.zero

end Awareness

end Egress
