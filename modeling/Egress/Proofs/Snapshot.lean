import Egress.Proofs.Topology

/-!
# A network is a snapshot

A network is made of a building once, while points are located in the building as it stands.  Still
no declaration ever changes an answer.  Rooms are declared behind those that were there, so a room
that was the first to cover a point stays the first.  Where only a later room covers a point, its id
is none of the ids that the network was made with, and the point is unlocated as it was before.

Between questions the building keeps an index of its rooms, and that is all that a question leaves
behind; among the calls, locating a point stands for any of them.  What the index says is what the
rooms say, because declaring a room drops it.
-/

namespace Egress

namespace Building

variable {α σ : Type} [Scalar α] [Outline σ α] {building next : Building α σ} {call : Call α}

/-- The index in which points are located is one of the rooms as they are. -/
def Current (building : Building α σ) : Prop := building.currentIndex = boxed building.rooms

omit [Scalar α] in
theorem Current.empty : (Building.empty : Building α σ).Current := rfl

theorem Current.follows (current : building.Current) (follows : building.Follows call next) :
    next.Current := by
  cases follows with
  | room => rfl
  | portal => exact current
  | door => exact current
  | locate => exact current

theorem Current.performAll (current : building.Current) (calls : List (Call α)) :
    (building.performAll calls).Current :=
  performAll_keeps Current (fun accepted before => before.follows accepted) current calls

/-- Whether a room is found to cover a point, on the given floor or on any. -/
def found (point : Point α) (floor : Option Int) (room : Room σ) : Bool :=
  hit point floor (Outline.box room.shape, room)

/-- With a current index, a point lies in the first declared room that covers it. -/
theorem Current.roomAt?_eq (current : building.Current) (point : Point α) (floor : Option Int) :
    building.roomAt? point floor = building.rooms.find? (found point floor) := by
  rw [roomAt?, current, boxed, List.find?_map, Option.map_map]
  exact congrFun Option.map_id _

/-- Calls do not change the room of a point that was in one, and do not put a room of an old id
where there was none. -/
theorem roomAt?_performAll (consistent : building.Consistent) (current : building.Current)
    (calls : List (Call α)) (point : Point α) (floor : Option Int) :
    (building.performAll calls).roomAt? point floor = building.roomAt? point floor ∨
      building.roomAt? point floor = none ∧ ∃ room,
        (building.performAll calls).roomAt? point floor = some room ∧ room.id ∉ building.ids := by
  rcases exists_rooms_performAll building calls with ⟨added, rooms⟩
  have distinct := (consistent.performAll calls).distinct
  rw [ids, rooms, List.map_append, List.nodup_append] at distinct
  rw [(current.performAll calls).roomAt?_eq, current.roomAt?_eq, rooms, List.find?_append]
  cases building.rooms.find? (found point floor) with
  | some room => exact Or.inl rfl
  | none =>
    rw [Option.none_or]
    cases later : added.find? (found point floor) with
    | none => exact Or.inl rfl
    | some room =>
      refine Or.inr ⟨rfl, room, rfl, fun old => ?_⟩
      have isAdded := List.mem_of_find?_eq_some later
      exact distinct.2.2 _ old _ (List.mem_map_of_mem isAdded) rfl

end Building

namespace Network

variable {α σ : Type} [Scalar α] [Metric α] [Outline σ α] {building : Building α σ}
  {settings : Settings α} {network : Network α}

/-- The regions of a network are the rooms of its building, numbered. -/
theorem regions_of_network (surveyed : building.network settings = .ok network) :
    network.regions = number (building.rooms.map Building.place) := by
  unfold Building.network at surveyed
  split at surveyed
  · cases surveyed
  · rcases bind_eq_ok.mp surveyed with ⟨groups, -, made⟩
    rcases bind_eq_ok.mp made with ⟨connections, -, same⟩
    cases same
    rfl

/-- A network knows no region of an id that no room had when it was made. -/
theorem findRegion?_of_notMem (surveyed : building.network settings = .ok network) {id : String}
    (absent : id ∉ building.ids) : network.findRegion? id = none := by
  refine List.find?_eq_none.mpr fun region member same => absent ?_
  rw [List.mem_reverse, regions_of_network surveyed] at member
  rcases List.mem_map.mp member with ⟨⟨place, index⟩, isPlace, rfl⟩
  rcases List.mem_map.mp (List.fst_mem_of_mem_zipIdx isPlace) with ⟨room, isRoom, rfl⟩
  exact beq_iff_eq.mp same ▸ List.mem_map_of_mem isRoom

/-- A network that was made of a declared building answers for every point as it did at first,
whatever is declared or asked later on. -/
theorem regionFor_after_calls (early late : List (Building.Call α))
    (surveyed : ((Building.empty : Building α σ).performAll early).network settings = .ok network)
    (point : Point α) (floor : Option Int) :
    let building := (Building.empty : Building α σ).performAll early
    network.regionFor (building.performAll late) point floor =
      network.regionFor building point floor := by
  intro building
  have consistent : building.Consistent := Building.Consistent.empty.performAll early
  have current : building.Current := Building.Current.empty.performAll early
  unfold regionFor
  rcases Building.roomAt?_performAll consistent current late point floor with same |
    ⟨nowhere, room, isLater, absent⟩
  · rw [same]
  · rw [nowhere, isLater, Option.bind_some, findRegion?_of_notMem surveyed absent]
    rfl

/-- What is declared in the row after it was surveyed: a room that overlaps one of the row and is
refused, and a room behind the last one. -/
def extension : List (Building.Call Rat) := [
  .locate ⟨7, 1⟩ none,
  .room "ALCOVE" [⟨1, 1⟩, ⟨3, 1⟩, ⟨3, 3⟩, ⟨1, 3⟩] "floor" 0,
  .room "ANNEX" [⟨6, 0⟩, ⟨8, 0⟩, ⟨8, 2⟩, ⟨6, 2⟩] "stair" 0,
  .door "ANNEX" ⟨8, 1⟩,
  .portal "ANNEX" "WEST" none]

/-- The building finds the point in the room that was added, and the network does not. -/
theorem regionFor_after_extension :
    let building := (Building.empty : Building Rat (Box Rat)).performAll Building.rowCalls
    building.roomAt? ⟨7, 1⟩ none = none ∧
    ((building.performAll extension).roomAt? ⟨7, 1⟩ none).map Room.id = some "ANNEX" ∧
    ∃ network, building.network .defaults = .ok network ∧
      network.regionFor (building.performAll extension) ⟨7, 1⟩ none =
        network.regionFor building ⟨7, 1⟩ none := by
  intro building
  have surveyed : building.network .defaults =
      .ok ((building.network .defaults).toOption.getD default) :=
    eq_ok_of_isOk (by decide +kernel) default
  refine ⟨Option.isNone_iff_eq_none.mp (by decide +kernel), by decide +kernel, _, surveyed, ?_⟩
  exact regionFor_after_calls Building.rowCalls extension surveyed ⟨7, 1⟩ none

end Network

end Egress
