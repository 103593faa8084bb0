import Mathlib.Algebra.Order.Ring.Rat
import Egress.Proofs.Guidance
import Egress.Proofs.Survey

/-!
# Upright rooms

Over exact rationals upright boxes are the simplest outlines.  Boxes that share no area touch along
a common side, and ways that run along the axes have rational lengths.  Buildings of upright rooms
whose doors lie in line with their centres are therefore surveyed without rounding.

A row of three such rooms serves as an example: rooms that touch are joined both ways, and a door
leads out of the first.
-/

namespace Egress

namespace Box

/-- What two boxes have in common, if they meet. -/
def common (first second : Box Rat) : Box Rat where
  low := ⟨max first.low.x second.low.x, max first.low.y second.low.y⟩
  high := ⟨min first.high.x second.high.x, min first.high.y second.high.y⟩

def width (box : Box Rat) : Rat := max 0 (box.high.x - box.low.x)

def height (box : Box Rat) : Rat := max 0 (box.high.y - box.low.y)

def middle (box : Box Rat) : Point Rat :=
  ⟨(box.low.x + box.high.x) / 2, (box.low.y + box.high.y) / 2⟩

theorem common_comm (first second : Box Rat) : common first second = common second first := by
  simp only [common, max_comm, min_comm]

theorem meets_comm (first second : Box Rat) : first.meets second = second.meets first := by
  unfold meets
  rw [Bool.and_comm (decide (first.low.x ≤ second.high.x)), Bool.and_assoc (_ && _),
    Bool.and_comm (decide (first.low.y ≤ second.high.y)), ← Bool.and_assoc]

/-- The length of the common side of two boxes that share no area. -/
def contact (first second : Box Rat) : Rat :=
  if first.meets second ∧ (common first second).width * (common first second).height = 0 then
    (common first second).width + (common first second).height
  else 0

/-- The box around three or more points. -/
def ofPoints : List (Point Rat) → Except OutlineFlaw (Box Rat)
  | [] => .error .notSimple
  | first :: second :: third :: others => .ok (around first (second :: third :: others))
  | _ => .error .tooFewPoints

instance : Outline (Box Rat) Rat where
  ofPoints := ofPoints
  vertices box :=
    [box.low, ⟨box.high.x, box.low.y⟩, box.high, ⟨box.low.x, box.high.y⟩, box.low]
  area box := box.width * box.height
  centre := middle
  box := id
  covers := contains
  sharedArea first second := (common first second).width * (common first second).height
  contactLength := contact
  contactCentre first second := (common first second).middle

instance : LawfulOutline (Box Rat) where
  contains_of_covers _ _ covered := covered
  sharedArea_comm first second := by
    simp only [Outline.sharedArea, common_comm first second]
  contactLength_comm first second := by
    simp only [Outline.contactLength, contact, common_comm first second, meets_comm first second]
  contactCentre_comm first second := by
    simp only [Outline.contactCentre, common_comm first second]

/-- The length of a way along the axes. -/
instance : Metric Rat where
  distance first second := |first.x - second.x| + |first.y - second.y|

instance : LawfulMetric Rat where
  distance_comm first second := by
    simp only [Metric.distance, abs_sub_comm]

end Box

namespace Building

/-- Three square rooms in a row, with a door to the outside from the first. -/
def row : Building Rat (Box Rat) where
  rooms := [
    ⟨"WEST", ⟨⟨0, 0⟩, ⟨2, 2⟩⟩, .lobby, 0⟩,
    ⟨"MIDDLE", ⟨⟨2, 0⟩, ⟨4, 2⟩⟩, .corridor, 0⟩,
    ⟨"EAST", ⟨⟨4, 0⟩, ⟨6, 2⟩⟩, .entrance, 0⟩]
  portals := []
  doors := [⟨"WEST", ⟨0, 1⟩⟩]
  index := none

/-- The network of the row. -/
def rowNetwork : Network Rat := (row.network Settings.defaults).toOption.getD default

theorem row_network : row.network Settings.defaults = .ok rowNetwork :=
  eq_ok_of_isOk (by decide +kernel) default

theorem row_priced : rowNetwork.Priced Settings.defaults :=
  network_priced row_network rfl rfl rfl (by decide +kernel) (by decide +kernel)

/-- The room behind the middle one. -/
def lastInRow : Region Rat := rowNetwork.regions[2]?.get!

theorem row_simple : rowNetwork.Simple := (network_spec row_network).2

/-- A walk leads through the row. -/
theorem row_walk : ∃ walk, rowNetwork.Walk (fun _ => True) 0 walk lastInRow.index := by
  have toMiddle : ∃ walk, rowNetwork.Walk (fun _ => True) 0 walk 1 :=
    Network.exists_walk_onward ⟨[], .stay⟩ (by decide +kernel)
  exact Network.exists_walk_onward toMiddle (by decide +kernel)

/-- Two ways of one length from the first room to the last, through the upper room and through the
lower one. -/
def fork : Building Rat (Box Rat) where
  rooms := [
    ⟨"WEST", ⟨⟨0, 0⟩, ⟨2, 4⟩⟩, .lobby, 0⟩,
    ⟨"UP", ⟨⟨2, 2⟩, ⟨4, 4⟩⟩, .corridor, 0⟩,
    ⟨"DOWN", ⟨⟨2, 0⟩, ⟨4, 2⟩⟩, .corridor, 0⟩,
    ⟨"EAST", ⟨⟨4, 0⟩, ⟨6, 4⟩⟩, .entrance, 0⟩]
  portals := []
  doors := []
  index := none

/-- The network of the fork. -/
def forkNetwork : Network Rat := (fork.network Settings.defaults).toOption.getD default

theorem fork_network : fork.network Settings.defaults = .ok forkNetwork :=
  eq_ok_of_isOk (by decide +kernel) default

theorem fork_priced : forkNetwork.Priced Settings.defaults :=
  network_priced fork_network rfl rfl rfl (by decide +kernel) (by decide +kernel)

theorem fork_simple : forkNetwork.Simple := (network_spec fork_network).2

end Building

namespace Awareness

/-- What an agent knows of the row, before factors are written. -/
def inRow (complete : Bool) (discovered : List Nat) : Awareness Rat :=
  ⟨Building.rowNetwork, complete, discovered, Tariff.ofNetwork Building.rowNetwork .defaults⟩

theorem inRow_sound (complete : Bool) (discovered : List Nat) :
    (inRow complete discovered).Sound :=
  sound_of_priced Building.row_priced complete discovered

/-- What an agent knows of the fork that knows everything, with the factors of a tariff. -/
def inFork (factors : Table Nat (Table String Rat)) : Awareness Rat :=
  ⟨Building.forkNetwork, true, [],
    { Tariff.ofNetwork Building.forkNetwork .defaults with factors }⟩

theorem inFork_sound (factors : Table Nat (Table String Rat)) : (inFork factors).Sound := by
  rcases sound_of_priced Building.fork_priced true [] with ⟨formed, based, low, high, bounded⟩
  exact ⟨formed, based, low, high, bounded.lowest, bounded.highest, bounded.positive,
    bounded.ordered, bounded.based⟩

end Awareness

namespace Guidance

/-- The row without smoke and with all doors open. -/
def calmRow : World Rat (Box Rat) := ⟨Building.row, fun _ => .ofNetwork Building.rowNetwork⟩

/-- To the room behind the middle one. -/
def eastward : Target Rat (Box Rat) := .region Building.lastInRow

def emptyRow : Guidance Rat :=
  ofNetwork Building.rowNetwork (.standard (some 0) .defaults) (some 0) .defaults

/-- An agent in the middle of the first room. -/
def walker : Agent Rat where
  pid := 1
  position := ⟨1, 1⟩
  floor := none
  region := none
  flags := []
  history := []
  bound := none
  spawnTime := 0

/-- The state after the agent was registered, with full knowledge or without. -/
def inRow (complete : Bool) : Guidance Rat :=
  (emptyRow.addAgent calmRow walker (some complete)).toOption.getD emptyRow

theorem inRow_reachable (complete : Bool) :
    Reachable calmRow.building emptyRow (inRow complete) := by
  refine .add calmRow.conditions walker (some complete) .start (eq_ok_of_isOk ?_ emptyRow)
  cases complete <;> decide +kernel

/-- What the registered agent has become. -/
def memberInRow (complete : Bool) : Member Rat :=
  ((inRow complete).members.find? 1).get!

theorem find?_inRow (complete : Bool) :
    (inRow complete).members.find? 1 = some (memberInRow complete) := by
  refine (Option.some_get! _ ?_).symm
  cases complete <;> decide +kernel

end Guidance

end Egress
