import Egress.Proofs.Members
import Egress.Proofs.Topology

/-!
# Waypoints in the agent's own region

A waypoint is reached within a distance of its position.  An agent that stands in the region of the
waypoint already is sent to a point, but the way there leads through the region, which has forgotten
the position: the point is the centre of the room.  So the agent arrives at the waypoint exactly if
the centre lies within the distance.
-/

namespace Egress

variable {α σ : Type} [Scalar α] [Metric α] [Outline σ α]

/-- The regions of a surveyed building are its rooms, in the order of declaration. -/
theorem Building.room_of_region {building : Building α σ} {settings : Settings α}
    {network : Network α} (surveyed : building.network settings = .ok network) {region : Region α}
    (isRegion : region ∈ network.regions) :
    ∃ room, building.rooms[region.index]? = some room ∧ region.toPlace = Building.place room := by
  have formed := (network_spec surveyed).1
  unfold Building.network at surveyed
  split at surveyed
  · cases surveyed
  · rcases bind_eq_ok.mp surveyed with ⟨groups, -, made⟩
    rcases bind_eq_ok.mp made with ⟨connections, -, same⟩
    cases same
    rcases List.mem_iff_getElem?.mp isRegion with ⟨position, found⟩
    rw [formed.region_index found]
    rw [getElem?_regions, Option.map_eq_some_iff] at found
    rcases found with ⟨room, isRoom, rfl⟩
    exact ⟨room, isRoom, rfl⟩

omit [Metric α] in
/-- An agent that stands in its target region is sent to the centre of it. -/
theorem Awareness.nextHop_here {awareness : Awareness α} (formed : awareness.network.WellFormed)
    {building : Building α σ} {agent : Agent α} {region : Region α}
    (located : awareness.network.regionFor building agent.position agent.floor = .ok region) :
    awareness.nextHop building agent region.index = .ok (.point region.centre) := by
  have isRegion := Network.regionFor_mem located
  have inside := formed.region_lt_of_mem isRegion
  rcases formed.region_of_lt inside with ⟨found, lookup, isIndex, isFound, -⟩
  have same := formed.region_unique (List.mem_of_getElem? lookup) isRegion isIndex
  simp only [nextHop, located, Network.indexOf_of_lt inside, isFound, bind, Except.bind, if_true,
    same]
  rfl

namespace Guidance

/-- An agent that stands in the region of its goal is sent to the centre of the room. -/
theorem nextHop_goal_here {building : Building α σ} {surveying : Settings α} {network : Network α}
    (surveyed : building.network surveying = .ok network) {suite : Suite α} {field : Option Nat}
    {settings : Settings α} {guidance : Guidance α}
    (reachable : Reachable building (ofNetwork network suite field settings) guidance)
    {pid : Int} {member : Member α} (isMember : guidance.members.find? pid = some member)
    (goal : Goal α σ) {region : Region α}
    (located : network.regionFor building goal.target member.agent.floor = .ok region)
    (inRegion : member.agent.region = some ↑region.index) (time : Value α) :
    ∃ room, building.rooms[region.index]? = some room ∧
      guidance.nextHop building pid (.goal goal) time =
        (.ok (.point (Outline.centre room.shape)), []) := by
  have formed := (Building.network_spec surveyed).1
  rcases Building.room_of_region surveyed (Network.regionFor_mem located) with
    ⟨room, isRoom, isPlace⟩
  have isCentre : region.centre = Outline.centre room.shape := congrArg Place.centre isPlace
  have consistent := reachable.consistent rfl
  have placed := consistent.placed pid member isMember
  rcases placed.grown with ⟨complete, grown⟩
  rcases placed.located with ⟨here, isHere, hereRegion, -⟩
  have sameIndex : here.index = region.index :=
    Int.ofNat.inj (Option.some.inj (hereRegion.symm.trans inRegion))
  have same : here = region := formed.region_unique (Network.regionFor_mem isHere)
    (Network.regionFor_mem located) sameIndex
  have stands : member.awareness.network.regionFor building member.agent.position
      member.agent.floor = .ok region := by
    rw [grown.network, ← same]
    exact isHere
  have resolved : guidance.network.regionFor building goal.target member.agent.floor =
      .ok region := consistent.frame.1 ▸ located
  have hops := Awareness.nextHop_here (grown.network ▸ formed) stands
  refine ⟨room, isRoom, ?_⟩
  simp only [nextHop, member_eq_ok_iff.mpr isMember, resolve, resolved, hops, isCentre]

/-- An agent whose waypoint lies in its own region is sent to the centre of the room, and arrives if
and only if the centre is near enough. -/
theorem nextHop_waypoint {building : Building α σ} {surveying : Settings α} {network : Network α}
    (surveyed : building.network surveying = .ok network) {suite : Suite α} {field : Option Nat}
    {settings : Settings α} {guidance : Guidance α}
    (reachable : Reachable building (ofNetwork network suite field settings) guidance)
    {pid : Int} {member : Member α} (isMember : guidance.members.find? pid = some member)
    {position : Point α} (within : α) {region : Region α}
    (located : network.regionFor building position member.agent.floor = .ok region)
    (inRegion : member.agent.region = some ↑region.index) (time : Value α) :
    ∃ room, building.rooms[region.index]? = some room ∧
      guidance.nextHop building pid (.goal (.waypoint position within)) time =
        (.ok (.point (Outline.centre room.shape)), []) ∧
      ∀ agent : Agent α, agent.position = Outline.centre room.shape →
        (((.waypoint position within : Goal α σ).visit agent).1 = true ↔
          Metric.distance (Outline.centre room.shape) position ≤ within) := by
  rcases nextHop_goal_here surveyed reachable isMember (.waypoint position within) located inRegion
    time with ⟨room, isRoom, heads⟩
  refine ⟨room, isRoom, heads, ?_⟩
  intro agent isThere
  rw [Goal.visit, isThere, decide_eq_true_eq]

/-! ## A waypoint off the centre -/

/-- The waypoint on the middle line of the first room in the row, three quarters west of the
centre. -/
def offCentre (within : Rat) : Goal Rat (Box Rat) := .waypoint ⟨1 / 4, 1⟩ within

/-- The waypoint lies in the room in which the agent was registered. -/
theorem offCentre_located : ∃ region,
    Building.rowNetwork.regionFor Building.row ⟨1 / 4, 1⟩ (memberInRow false).agent.floor =
        .ok region ∧
      (memberInRow false).agent.region = some ↑region.index ∧ region.index = 0 := by
  have lies : (Building.rowNetwork.regionFor Building.row ⟨1 / 4, 1⟩
      (memberInRow false).agent.floor).toOption.map Region.index = some 0 := by decide +kernel
  have stands : (memberInRow false).agent.region = some 0 := by decide +kernel
  rcases exists_of_view lies with ⟨region, located, isFirst⟩
  refine ⟨region, located, ?_, isFirst⟩
  rw [isFirst]
  exact stands

theorem nextHop_waypoint_in_row :
    Building.row.network .defaults = .ok Building.rowNetwork ∧
    Reachable Building.row emptyRow (inRow false) ∧
    (inRow false).members.find? 1 = some (memberInRow false) ∧
    ∃ region, Building.rowNetwork.regionFor Building.row ⟨1 / 4, 1⟩
        (memberInRow false).agent.floor = .ok region ∧
      (memberInRow false).agent.region = some ↑region.index ∧
      ∃ room, Building.row.rooms[region.index]? = some room ∧
        (inRow false).nextHop Building.row 1 (.goal (offCentre 1)) .null =
          (.ok (.point (Outline.centre room.shape)), []) ∧
        ∀ agent : Agent Rat, agent.position = Outline.centre room.shape →
          (((offCentre 1).visit agent).1 = true ↔
            Metric.distance (Outline.centre room.shape) (⟨1 / 4, 1⟩ : Point Rat) ≤ 1) := by
  rcases offCentre_located with ⟨region, located, inRegion, -⟩
  exact ⟨Building.row_network, inRow_reachable false, find?_inRow false, region, located, inRegion,
    nextHop_waypoint Building.row_network (inRow_reachable false) (find?_inRow false) 1 located
      inRegion .null⟩

/-- An agent that is sent to its waypoint need not arrive there: the centre of the first room is not
within half a metre of it. -/
theorem nextHop_misses_waypoint :
    Building.row.network .defaults = .ok Building.rowNetwork ∧
    Reachable Building.row emptyRow (inRow false) ∧
    (inRow false).members.find? 1 = some (memberInRow false) ∧
    ∃ region, Building.rowNetwork.regionFor Building.row ⟨1 / 4, 1⟩
        (memberInRow false).agent.floor = .ok region ∧
      (memberInRow false).agent.region = some ↑region.index ∧
      ((inRow false).nextHop Building.row 1 (.goal (offCentre (1 / 2))) .null).1 =
        .ok (.point ⟨1, 1⟩) ∧
      ∀ agent : Agent Rat, agent.position = ⟨1, 1⟩ →
        ((offCentre (1 / 2)).visit agent).1 = false := by
  rcases offCentre_located with ⟨region, located, inRegion, isFirst⟩
  rcases nextHop_goal_here Building.row_network (inRow_reachable false) (find?_inRow false)
    (offCentre (1 / 2)) located inRegion .null with ⟨room, isRoom, heads⟩
  have isCentre : Outline.centre room.shape = (⟨1, 1⟩ : Point Rat) := by
    rw [isFirst] at isRoom
    cases isRoom
    decide +kernel
  refine ⟨Building.row_network, inRow_reachable false, find?_inRow false, region, located, inRegion,
    ?_, ?_⟩
  · rw [heads, isCentre]
  · intro agent isThere
    rw [offCentre, Goal.visit, isThere]
    decide +kernel

end Guidance

end Egress
