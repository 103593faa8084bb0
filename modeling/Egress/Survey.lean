import Egress.Building
import Egress.Network
import Egress.Settings

/-!
# The network of a building

Surveying a building numbers its rooms in order of declaration and turns the exits of each room
into connections.  Of several exits to one room only the first becomes a connection, so there is at
most one live connection for each ordered pair; doors to the outside are all kept.  An exit to a
room that the building does not have ends the survey.

The cost of a connection is the distance from the centre of its region to the crossing and on to the
centre of the region behind it, but never less than the cost floor.

A network does not hold the building.  Points are located in the building that is passed along, and
a point in a room that the network does not know is as lost as a point outside.
-/

namespace Egress

namespace Building

variable {α σ : Type} [Scalar α] [Metric α] [Outline σ α]

/-- A room as the network sees it. -/
def place (room : Room σ) : Place α where
  id := room.id
  category := room.category.label
  centre := Outline.centre room.shape
  area := Outline.area room.shape
  floor := room.floor

def indexOf? (building : Building α σ) (id : String) : Option Nat :=
  building.rooms.findIdx? fun room => room.id == id

/-- The index and the centre of the room behind an exit of a room, if the exit leads into the
building. -/
def behind (building : Building α σ) (room : Room σ) (exit : Exit α) :
    Except (Fault α) (Option (Nat × Point α)) :=
  match exit.target with
  | none => .ok none
  | some id =>
    match building.indexOf? id, building.room? id with
    | some index, some target => .ok (some (index, Outline.centre target.shape))
    | _, _ => .error (.unknownExit room.id id)

/-- The length of the way from a centre through a crossing, to the centre behind it if there is
one. -/
def wayLength (centre : Point α) (beyond : Option (Point α)) (crossing : Point α) : α :=
  match beyond with
  | none => Metric.distance centre crossing
  | some target => Metric.distance centre crossing + Metric.distance crossing target

/-- A length that is raised to the cost floor; nothing if the floor is raised beyond all numbers. -/
def costFrom (floor : Value α) (length : α) : Except (Fault α) (Option α) :=
  match floor.number? with
  | none => .error .wrongType
  | some least => .ok (if length < least then floor.number.toOption else some length)

/-- The passage through one exit of a room. -/
def passage (settings : Settings α) (room : Room σ)
    (exit : Option (Nat × Point α) × Point α) : Except (Fault α) (Passage α) := do
  let length := wayLength (Outline.centre room.shape) (exit.1.map Prod.snd) exit.2
  return {
    destination := exit.1.map fun found => (found.1 : Int)
    baseCost := ← costFrom (settings.value .costFloor) length
    crossing := exit.2 }

/-- The passages through some exits of a room, exit by exit: through the first exit to each room
that is not among those seen, and through every exit to the outside. -/
def passagesThrough (building : Building α σ) (settings : Settings α) (room : Room σ)
    (seen : List Nat) : List (Exit α) → Except (Fault α) (List (Passage α))
  | [] => .ok []
  | exit :: rest => do
    match ← building.behind room exit with
    | none =>
      let made ← passage settings room (none, exit.point)
      return made :: (← building.passagesThrough settings room seen rest)
    | some found =>
      if seen.contains found.1 then building.passagesThrough settings room seen rest
      else
        let made ← passage settings room (some found, exit.point)
        return made :: (← building.passagesThrough settings room (found.1 :: seen) rest)

/-- The passages out of a room. -/
def passages (building : Building α σ) (settings : Settings α) (room : Room σ) :
    Except (Fault α) (List (Passage α)) := do
  building.passagesThrough settings room [] (← building.exits room.id)

/-- The network of a building. -/
def network (building : Building α σ) (settings : Settings α) :
    Except (Fault α) (Network α) := do
  if building.rooms.isEmpty then throw .emptyBuilding
  let groups ← building.rooms.zipIdx.mapM fun (room, index) => do
    return (← building.passages settings room).map fun passage => ((index : Int), passage)
  Network.ofPlaces (building.rooms.map place) groups.flatten

end Building

namespace Network

variable {α σ : Type} [Scalar α] [Outline σ α]

/-- The region in which a point lies, on the given floor or on any. -/
def regionFor (network : Network α) (building : Building α σ) (point : Point α)
    (floor : Option Int) : Except (Fault α) (Region α) :=
  match (building.roomAt? point floor).bind fun room => network.findRegion? room.id with
  | some region => .ok region
  | none => .error (.unlocated point)

end Network

end Egress
