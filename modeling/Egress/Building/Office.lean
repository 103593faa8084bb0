import Egress.Building

/-!
# The standard office

One floor of the office has a corridor of three segments, three rooms on either side of it, a lobby
and an entrance at the left end, and a stair and an escalator at the right end.  The rooms are inset
by half a metre, so that neighbours share no wall and open onto their corridor segment only.  On the
ground floor the entrance and the stair have doors to the outside.

The layout is a list of declarations, made one after another; the first that fails ends it, and
what was declared before stays.
-/

namespace Egress.Building

variable {α σ : Type} [Scalar α] [Outline σ α]

/-- One declaration of a layout. -/
inductive Declaration (α : Type) where
  | room (id : String) (points : List (Point α)) (category : Category) (floor : Int)
  | portal (first second : String) (point : Point α)
  | door (id : String) (point : Point α)

def declare (building : Building α σ) : Declaration α → Except (Fault α) (Building α σ)
  | .room id points category floor => building.addRoom id points category.label floor
  | .portal first second point => building.addPortal first second (some point)
  | .door id point => building.addDoor id point

/-- Make declarations in order until one fails. -/
def declareAll (building : Building α σ) :
    List (Declaration α) → Building α σ × Except (Fault α) Unit
  | [] => (building, .ok ())
  | declaration :: rest =>
    match building.declare declaration with
    | .ok building => building.declareAll rest
    | .error fault => (building, .error fault)

/-- The corners of an upright rectangle, counterclockwise. -/
def box (left bottom right top : α) : List (Point α) :=
  [⟨left, bottom⟩, ⟨right, bottom⟩, ⟨right, top⟩, ⟨left, top⟩]

/-- The corridor segment, or the room beside it, with a number: from `left` to `right` metres after
the start of the segment. -/
def segmentBox (number : Nat) (left bottom right top : α) : List (Point α) :=
  let start : α := Scalar.ofInt (6 * number)
  box (start + left) bottom (start + right) top

def officeFloor (level : Int) (lead : String) : List (Declaration α) :=
  let row (name : String) (category : Category) (left bottom right top : α) :=
    (List.range 3).map fun number =>
      Declaration.room (lead ++ name ++ toString number)
        (segmentBox number left bottom right top) category level
  let room (name : String) (category : Category) (left bottom right top : α) :=
    Declaration.room (lead ++ name) (box left bottom right top) category level
  let door (name : String) (point : Point α) : List (Declaration α) :=
    if level = 0 then [.door (lead ++ name) point] else []
  let whole (value : Int) : α := Scalar.ofInt value
  row "H" .corridor (whole 0) (whole 4) (whole 6) (whole 6) ++
  row "RT" .floor 0.5 (whole 6) 5.5 (whole 10) ++
  row "RB" .floor 0.5 (whole 0) 5.5 (whole 4) ++
  [room "LOBBY" .lobby (whole (-6)) (whole 2) (whole 0) (whole 8),
    room "ENTRANCE" .entrance (whole (-9)) (whole 3) (whole (-6)) (whole 7)] ++
  door "ENTRANCE" ⟨whole (-9), whole 5⟩ ++
  [room "STAIR" .stair (whole 18) 5.1 (whole 21) (whole 6),
    room "ESCALATOR" .escalatorUp (whole 18) (whole 4) (whole 21) 4.9] ++
  door "STAIR" ⟨whole 21, 5.55⟩

/-- Add one floor of the office. -/
def addOffice (building : Building α σ) (level : Int) (lead : String) :
    Building α σ × Except (Fault α) Unit :=
  building.declareAll (officeFloor level lead)

/-- The declarations of two offices, one above the other, with their stairs joined.  Regions of the
upper floor have the lead `F1_`. -/
def twoFloors : List (Declaration α) :=
  officeFloor 0 "" ++ officeFloor 1 "F1_" ++
    [.portal "STAIR" "F1_STAIR" ⟨19.5, 5.55⟩]

/-- The office of two floors. -/
def twoFloorOffice : Building α σ × Except (Fault α) Unit :=
  (empty : Building α σ).declareAll twoFloors

end Egress.Building
