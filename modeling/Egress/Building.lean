import Egress.Fault
import Egress.Plane

/-!
# Buildings

A building is a list of rooms in the order in which they were declared, with portals between rooms
that do not touch (stairs, say) and doors that lead outside.  Two rooms on one floor may touch but
not overlap.  Declaring something either succeeds or changes nothing.

A point on a shared boundary belongs to the room declared first.  Points are located in an index of
the rooms, which is made when a point is located and kept until a room is declared; an index that
was kept gives the same answers as one made anew.

The exits of a room are listed in a fixed order: rooms that it touches, in order of declaration,
then its portals, then its doors.
-/

namespace Egress

structure Room (σ : Type) where
  id : String
  shape : σ
  category : Category
  floor : Int
  deriving Repr, Inhabited

/-- One direction of a portal. -/
structure Portal (α : Type) where
  source : String
  target : String
  point : Point α
  deriving Repr, Inhabited

/-- A door to the outside. -/
structure Door (α : Type) where
  room : String
  point : Point α
  deriving Repr, Inhabited

/-- A way out of a room: the room it leads to, if any, and where. -/
structure Exit (α : Type) where
  target : Option String
  point : Point α
  deriving Repr, Inhabited

structure Building (α σ : Type) where
  rooms : List (Room σ)
  portals : List (Portal α)
  doors : List (Door α)
  /-- The rooms with the boxes around them, if a point was located since the last declaration of a
  room. -/
  index : Option (List (Box α × Room σ))
  deriving Inhabited

namespace Building

variable {α σ : Type} [Scalar α] [Outline σ α]

def empty : Building α σ := ⟨[], [], [], none⟩

/-- Shared areas up to this size are no overlap, and shared boundaries up to this length are
corners and not doors. -/
def tolerance : α := 1e-6

def room? (building : Building α σ) (id : String) : Option (Room σ) :=
  building.rooms.find? fun room => room.id == id

/-- The room with an id, which the caller asks about. -/
def room (building : Building α σ) (id : String) : Except (Fault α) (Room σ) :=
  match building.room? id with
  | some room => .ok room
  | none => .error (.noRegionNamed id)

def ids (building : Building α σ) : List String := building.rooms.map fun room => room.id

/-- Whether two rooms share more area than the tolerance. -/
def overlaps (first second : σ) : Bool := decide (tolerance < Outline.sharedArea first second)

/-- Declare a room. -/
def addRoom (building : Building α σ) (id : String) (points : List (Point α)) (category : String)
    (floor : Int) : Except (Fault α) (Building α σ) := do
  if (building.room? id).isSome then throw (.duplicateRegion id)
  let some category := Category.ofLabel? category
    | throw (.unknownCategory (.text category))
  let shape ← match (Outline.ofPoints points : Except OutlineFlaw σ) with
    | .ok shape => if Outline.area shape ≤ Scalar.zero then .error (.badOutline id) else .ok shape
    | .error .tooFewPoints => .error .tooFewPoints
    | .error .notSimple => .error (.badOutline id)
  match building.rooms.find? fun other => other.floor == floor && overlaps shape other.shape with
  | some other => throw (.overlap id other.id)
  | none =>
    return { building with
      rooms := building.rooms ++ [⟨id, shape, category, floor⟩]
      index := none }

/-- The room with an id, which a declaration refers to. -/
def declared (building : Building α σ) (id : String) : Except (Fault α) (Room σ) :=
  match building.room? id with
  | some room => .ok room
  | none => .error (.undeclaredRegion id)

/-- Join two rooms both ways, at a point or at the centre of the second. -/
def addPortal (building : Building α σ) (first second : String) (point : Option (Point α)) :
    Except (Fault α) (Building α σ) := do
  let _ ← building.declared first
  let target ← building.declared second
  let point := point.getD (Outline.centre target.shape)
  return { building with
    portals := building.portals ++ [⟨first, second, point⟩, ⟨second, first, point⟩] }

def addDoor (building : Building α σ) (id : String) (point : Point α) :
    Except (Fault α) (Building α σ) := do
  let _ ← building.declared id
  return { building with doors := building.doors ++ [⟨id, point⟩] }

/-- An index of rooms: each with the box around it, in order. -/
def boxed (rooms : List (Room σ)) : List (Box α × Room σ) :=
  rooms.map fun room => (Outline.box room.shape, room)

/-- The index that was kept, or else one made now. -/
def currentIndex (building : Building α σ) : List (Box α × Room σ) :=
  building.index.getD (boxed building.rooms)

/-- Keep the index for the points to come. -/
def indexed (building : Building α σ) : Building α σ :=
  { building with index := some building.currentIndex }

/-- Whether a room of an index covers a point, on the given floor or on any. -/
def hit (point : Point α) (floor : Option Int) (entry : Box α × Room σ) : Bool :=
  entry.1.contains point && Outline.covers entry.2.shape point &&
    floor.all fun level => entry.2.floor == level

/-- The first room that covers a point, on the given floor or on any. -/
def roomAt? (building : Building α σ) (point : Point α) (floor : Option Int) :
    Option (Room σ) :=
  (building.currentIndex.find? (hit point floor)).map Prod.snd

/-- Locate a point and keep the index. -/
def locate (building : Building α σ) (point : Point α) (floor : Option Int) :
    Option (Room σ) × Building α σ :=
  (building.roomAt? point floor, building.indexed)

/-- Whether two rooms share a boundary that is long enough for a door. -/
def touches (first second : σ) : Bool := !decide (Outline.contactLength first second ≤ tolerance)

/-- The ways out of a room. -/
def exits (building : Building α σ) (id : String) : Except (Fault α) (List (Exit α)) := do
  let room ← building.room id
  let neighbours := building.rooms.filter fun other =>
    other.id != id && other.floor == room.floor && touches room.shape other.shape
  let contacts := neighbours.map fun other =>
    { target := some other.id, point := Outline.contactCentre room.shape other.shape : Exit α }
  let portals := building.portals.filterMap fun portal =>
    if portal.source == id then some { target := some portal.target, point := portal.point }
    else none
  let doors := building.doors.filterMap fun door =>
    if door.room == id then some { target := none, point := door.point } else none
  return contacts ++ portals ++ doors

end Building

end Egress
