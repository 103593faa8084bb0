import Egress.Polygon
import Egress.Proofs.Frontier
import Egress.Proofs.Hop

/-!
# Exploration never gets stuck

An agent whose target is out of reach of what it knows falls back on its frontier.  If a walk leads
to the target at all, the walk crosses the frontier, so the frontier is not empty, and its first
region is within reach of what the agent knows.

A ranking by cost can tell regions within reach from others only if their costs are finite.
-/

namespace Egress.Guidance

variable {α σ : Type} [Scalar α] [Outline σ α]

/-- Regions within reach of a search come first in the ranking of a frontier. -/
theorem labelled_of_first {weights : α → Prop} (laws : LawfulCosts weights) {labels : Labels α}
    {regions : List (Region α)} (comparable : ∀ region ∈ regions, Comparable weights labels region)
    {reached : Region α} (member : reached ∈ regions) {label : Label α}
    (found : labels.find? reached.index = some label) :
    ∃ nearest others, Ranking.ofList (nearer labels) regions = nearest :: others ∧
      nearest ∈ regions ∧ ∃ first, labels.find? nearest.index = some first := by
  rcases Ranking.ofList_spec (nearer_precedence laws labels) comparable with ⟨inOrder, same⟩
  cases ranked : Ranking.ofList (nearer labels) regions with
  | nil =>
    rw [ranked] at same
    exact absurd (same.mem_iff.mpr member) List.not_mem_nil
  | cons nearest others =>
    rw [ranked] at same inOrder
    have isFirst := same.mem_iff.mp (List.mem_cons_self (a := nearest) (l := others))
    refine ⟨nearest, others, rfl, isFirst, ?_⟩
    rcases List.mem_cons.mp (same.mem_iff.mpr member) with rfl | later
    · exact ⟨label, found⟩
    · have behind := (List.pairwise_cons.mp inOrder).1 reached later
      have atMost := (nearer_eq_false_iff laws (comparable nearest isFirst)
        (comparable reached member)).mp behind
      unfold AtMostAsFar at atMost
      rw [found] at atMost
      cases isLabel : labels.find? nearest.index with
      | some first => exact ⟨first, rfl⟩
      | none =>
        rw [isLabel] at atMost
        exact atMost.elim

/-- What a walk through known regions crosses into makes the frontier begin within reach. -/
theorem exists_nearest {awareness : Awareness α} (sound : awareness.Sound)
    (laws : LawfulCosts awareness.Weights) {start : Nat} (inside : start < awareness.network.size)
    (finite : ∀ known region total, awareness.network.Walk awareness.Knows start known region →
      awareness.total known = .ok total → Scalar.isFinite total = true)
    {crossed : Int} (isFrontier : crossed ∈ awareness.frontierIndices)
    {walk : List (Connection α)}
    (reaching : awareness.network.Walk awareness.Knows start walk crossed) :
    ∃ regions labels nearest others label, awareness.frontier = .ok regions ∧
      regions.isEmpty = false ∧ awareness.distances start none = .ok labels ∧
      Ranking.ofList (nearer labels) regions = nearest :: others ∧
      ¬ awareness.Knows nearest.index ∧ labels.find? nearest.index = some label ∧
      Scalar.isFinite label.cost = true := by
  rcases Awareness.frontier_spec sound.formed with ⟨regions, frontier, -, indices⟩
  rcases sound.distances_outcome laws inside with ⟨final, searched, outcome⟩
  rcases sound.weighed.label_of_walk outcome (Or.inl rfl) reaching with ⟨label, total, found, -⟩
  rcases List.mem_map.mp (indices ▸ isFrontier) with ⟨reached, isReached, isCrossed⟩
  have isFinite : ∀ region label, final.labels.find? region = some label →
      Scalar.isFinite label.cost = true := by
    intro region label found
    rcases Awareness.walk_of_label outcome found with ⟨known, back, isWalk, summed, -⟩
    exact finite known region label.cost isWalk summed
  have comparable : ∀ region ∈ regions, Comparable awareness.Weights final.labels region := by
    intro region _ label found
    exact ⟨outcome.summed.sums _ label found, isFinite _ label found⟩
  rcases labelled_of_first laws comparable isReached (isCrossed ▸ found) with
    ⟨nearest, others, ranked, isNearest, least, isLeast⟩
  have isIndex : ↑nearest.index ∈ awareness.frontierIndices :=
    indices ▸ List.mem_map_of_mem isNearest
  have notEmpty : regions.isEmpty = false :=
    List.isEmpty_eq_false_iff_exists_mem.mpr ⟨reached, isReached⟩
  exact ⟨regions, final.labels, nearest, others, least, frontier, notEmpty, searched, ranked,
    (Awareness.mem_frontierIndices.mp isIndex).1, isLeast, isFinite _ least isLeast⟩

/-- An agent whose target lies out of reach of its knowledge, but not of all walks, has somewhere to
explore: its frontier begins with an unknown region that a search over its knowledge reaches. -/
theorem frontier_leads_on {network : Network α} {suite : Suite α} {field : Option Nat}
    {settings : Settings α} (priced : network.Priced settings) {building : Building α σ}
    {guidance : Guidance α}
    (reachable : Reachable building (ofNetwork network suite field settings) guidance)
    {pid : Int} {member : Member α} (isMember : guidance.members.find? pid = some member)
    (laws : LawfulCosts member.awareness.Weights) {here : Region α}
    (located : network.regionFor building member.agent.position member.agent.floor = .ok here)
    (finite : ∀ known region total,
      member.awareness.network.Walk member.awareness.Knows here.index known region →
        member.awareness.total known = .ok total → Scalar.isFinite total = true)
    {target : Target α σ} {goal : Region α}
    (resolved : guidance.resolve building member.agent.floor target = .ok goal)
    {walk : List (Connection α)}
    (isWalk : network.Walk (fun _ => True) here.index walk goal.index)
    {time : Value α} {first second : Nat}
    (refused : (guidance.nextHop building pid target time).1 = .error (.noRoute first second)) :
    ∃ nearest others labels label, guidance.frontier pid = .ok (nearest :: others) ∧
      ¬ member.awareness.Knows nearest.index ∧
      member.awareness.distances here.index none = .ok labels ∧
      labels.find? nearest.index = some label ∧ Scalar.isFinite label.cost = true := by
  have placed := (reachable.consistent rfl).placed pid member isMember
  rcases placed.sound priced with ⟨sound, sameNetwork⟩
  have formed := sound.formed
  have isNetwork : member.awareness.network = network := sameNetwork
  rcases placed.located with ⟨region, isLocated, isHere, hereKnown⟩
  cases isLocated.symm.trans located
  rw [← isNetwork] at located isWalk
  have inside : here.index < member.awareness.network.size :=
    formed.region_lt_of_mem (Network.regionFor_mem located)
  -- the refusal says that the goal is out of reach, so the walk to it crosses the frontier
  have outOfReach : member.awareness.OutOfReach here.index goal.index := by
    rw [nextHop_of_resolve isMember resolved] at refused
    exact sound.outOfReach_of_nextHop laws located refused
  rcases Awareness.crosses_frontier hereKnown isWalk with ⟨goalKnown, knownWalk⟩ |
    ⟨crossed, toCrossed, isFrontier, reaching⟩
  · rcases outOfReach.2 with unknown | noWalk
    · exact absurd goalKnown unknown
    · exact absurd ⟨walk, knownWalk⟩ noWalk
  · rcases exists_nearest sound laws inside finite isFrontier reaching with
      ⟨regions, labels, nearest, others, label, frontier, notEmpty, searched, ranked, unknown,
        isLabel, isFinite⟩
    refine ⟨nearest, others, labels, label, ?_, unknown, searched, isLabel, isFinite⟩
    simp only [Guidance.frontier, member_eq_ok_iff.mpr isMember, frontier, isHere, notEmpty,
      searched, ranked, bind, Except.bind, Bool.false_eq_true, if_false]
    rfl

/-- In the row, an agent that knows only the first room is led on from there. -/
theorem frontier_leads_on_in_row :
    ∃ here walk first second nearest others labels label,
      Building.rowNetwork.regionFor calmRow.building (memberInRow false).agent.position
        (memberInRow false).agent.floor = .ok here ∧
      Building.rowNetwork.Walk (fun _ => True) here.index walk Building.lastInRow.index ∧
      ((inRow false).nextHop calmRow.building 1 eastward .null).1 =
        .error (.noRoute first second) ∧
      (inRow false).frontier 1 = .ok (nearest :: others) ∧
      ¬ (memberInRow false).awareness.Knows nearest.index ∧
      (memberInRow false).awareness.distances here.index none = .ok labels ∧
      labels.find? nearest.index = some label ∧ Scalar.isFinite label.cost = true := by
  have placed := ((inRow_reachable false).consistent rfl).placed 1 _ (find?_inRow false)
  have laws := (placed.sound Building.row_priced).1.laws
  rcases placed.located with ⟨here, located, isHere, -⟩
  have atFirst : (memberInRow false).agent.region = some 0 := by decide +kernel
  have refused : isRefusal ((inRow false).nextHop calmRow.building 1 eastward .null).1 = true := by
    decide +kernel
  rcases isRefusal_iff.mp refused with ⟨first, second, noRoute⟩
  rcases Building.row_walk with ⟨walk, isWalk⟩
  rw [← Option.some.inj (isHere.symm.trans atFirst)] at isWalk
  rcases frontier_leads_on Building.row_priced (inRow_reachable false) (find?_inRow false) laws
    located (fun _ _ _ _ _ => rfl) rfl isWalk noRoute with
    ⟨nearest, others, labels, label, leads⟩
  exact ⟨here, walk, first, second, nearest, others, labels, label, located, isWalk, noRoute,
    leads⟩

/-! ## Costs beyond all numbers

In doubles the cost of two very heavy connections is beyond all numbers.  Then a region within reach
ranks with those out of reach.
-/

/-- A square room. -/
def squareAt (id : String) (left : Float) : Room Polygon where
  id := id
  shape := (Polygon.ofPoints [⟨left, 0⟩, ⟨left + 2, 0⟩, ⟨left + 2, 2⟩, ⟨left, 2⟩]).toOption.getD
    default
  category := .unknown
  floor := 0

/-- Two rooms side by side, and some way off another three. -/
def islands : Building Float Polygon where
  rooms := [squareAt "A" 0, squareAt "P" 2, squareAt "B" 10, squareAt "C" 12, squareAt "Q" 14]
  portals := []
  doors := []
  index := none

/-- The passage from one room to another, through the middle of a wall. -/
def wayAt (source target : Int) (wall : Float) : Int × Passage Float :=
  (source, ⟨some target, some 2, ⟨wall, 1⟩⟩)

/-- The passages between rooms side by side. -/
def islandWays : List (Int × Passage Float) :=
  [wayAt 0 1 2, wayAt 1 0 2, wayAt 2 3 12, wayAt 3 2 12, wayAt 3 4 14, wayAt 4 3 14]

def islandNetwork : Network Float :=
  (Network.ofPlaces (islands.rooms.map Building.place) islandWays).toOption.getD default

/-- Both bounds of weights at one number, of which twice as much is beyond all numbers. -/
def heavy : Settings Float where
  value
    | .weightFloor | .weightCeiling => .real 1.7e308
    | setting => setting.default
  categoryFactor := Settings.defaultCategoryFactor
  extras := []

theorem islands_priced : islandNetwork.Priced heavy where
  formed := Network.wellFormed_of_ofPlaces (eq_ok_of_isOk (by decide +kernel) default)
    (by decide +kernel)
  based := by decide +kernel
  bounds := ⟨1.7e308, 1.7e308, rfl, rfl, by decide +kernel, by decide +kernel⟩

/-- An agent without a history in the first room. -/
def explorer : Agent Float where
  pid := 1
  position := ⟨1, 1⟩
  floor := none
  region := none
  flags := []
  history := []
  bound := none
  spawnTime := 0

def calmIslands : World Float Polygon := ⟨islands, fun _ => .ofNetwork islandNetwork⟩

def emptyIslands : Guidance Float := ofNetwork islandNetwork (.standard none heavy) none heavy

/-- The agent was registered without knowledge, and moved to the last room but one and back to the
room before it. -/
def strayed : Guidance Float :=
  ((((emptyIslands.addAgent calmIslands explorer (some false)).toOption.getD emptyIslands).move
    calmIslands 1 ⟨13, 1⟩ none).1.move calmIslands 1 ⟨11, 1⟩ none).1

theorem strayed_reachable : Reachable islands emptyIslands strayed := by
  refine .move calmIslands.conditions 1 _ none (.move calmIslands.conditions 1 _ none ?_)
  exact .add calmIslands.conditions explorer (some false) .start
    (eq_ok_of_isOk (by decide +kernel) emptyIslands)

/-- What the agent has become. -/
def straggler : Member Float := (strayed.members.find? 1).get!

theorem find?_strayed : strayed.members.find? 1 = some straggler :=
  (Option.some_get! _ (by decide +kernel)).symm

/-- Where costs are beyond all numbers, the frontier may begin with a region out of reach, although
a walk leads to the target. -/
theorem frontier_leads_astray :
    islandNetwork.Priced heavy ∧ Reachable islands emptyIslands strayed ∧
    strayed.members.find? 1 = some straggler ∧
    ∃ here goal walk first second nearest others labels,
      islandNetwork.regionFor islands straggler.agent.position straggler.agent.floor = .ok here ∧
      strayed.resolve islands straggler.agent.floor (.named "Q") = .ok goal ∧
      islandNetwork.Walk (fun _ => True) here.index walk goal.index ∧
      (strayed.nextHop islands 1 (.named "Q") .null).1 = .error (.noRoute first second) ∧
      strayed.frontier 1 = .ok (nearest :: others) ∧
      straggler.awareness.distances here.index none = .ok labels ∧
      labels.find? nearest.index = none := by
  refine ⟨islands_priced, strayed_reachable, find?_strayed, ?_⟩
  have stands : (islandNetwork.regionFor islands straggler.agent.position
      straggler.agent.floor).toOption.map Region.index = some 2 := by decide +kernel
  have heads : (strayed.resolve islands straggler.agent.floor (.named "Q")).toOption.map
      Region.index = some 4 := by decide +kernel
  have ranks : (strayed.frontier 1).toOption.map (List.map Region.index) = some [1, 4] := by
    decide +kernel
  have misses : (straggler.awareness.distances 2 none).toOption.map
      (fun labels => (labels.find? 1).isNone) = some true := by decide +kernel
  have refused : isRefusal (strayed.nextHop islands 1 (.named "Q") .null).1 = true := by
    decide +kernel
  have toMiddle : ∃ walk, islandNetwork.Walk (fun _ => True) 2 walk 3 :=
    Network.exists_walk_onward ⟨[], .stay⟩ (by decide +kernel)
  have toLast : ∃ walk, islandNetwork.Walk (fun _ => True) 2 walk 4 :=
    Network.exists_walk_onward toMiddle (by decide +kernel)
  rcases exists_of_view stands with ⟨here, located, isHere⟩
  rcases exists_of_view heads with ⟨goal, resolved, isGoal⟩
  rcases exists_of_view ranks with ⟨regions, ranked, inOrder⟩
  rcases exists_of_view misses with ⟨labels, searched, missing⟩
  rcases isRefusal_iff.mp refused with ⟨first, second, noRoute⟩
  rcases List.map_eq_cons_iff.mp inOrder with ⟨nearest, others, rfl, isNearest, -⟩
  rcases toLast with ⟨walk, isWalk⟩
  refine ⟨here, goal, walk, first, second, nearest, others, labels, located, resolved, ?_, noRoute,
    ranked, ?_, ?_⟩
  · rw [isHere, isGoal]
    exact isWalk
  · rw [isHere]
    exact searched
  · rw [isNearest]
    exact Option.isNone_iff_eq_none.mp missing

end Egress.Guidance
