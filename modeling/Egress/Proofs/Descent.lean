import Egress.Proofs.Journey

/-!
# Following next hops

Each next hop comes from a search of its own, from another region, and where several walks cost the
same it may not lie on the walk that an earlier search found.  Nevertheless, as long as weights stay
as they are, the least cost that remains to the goal drops by exactly the weight of the door taken.
So the agent never comes back to a region that it has left, it arrives, and what it has paid on the
way is what the way costs from the start.
-/

namespace Egress

open Network

variable {σ : Type} [Outline σ Rat]

namespace Awareness

/-! ## What remains to a goal -/

/-- The least cost of a walk to a goal. -/
def Remains (awareness : Awareness Rat) (goal region : Int) (left : Rat) : Prop :=
  (∀ walk, awareness.network.Walk awareness.Knows region walk goal →
    left ≤ cost awareness.weightOf walk) ∧
  ∃ walk, awareness.network.Walk awareness.Knows region walk goal ∧
    cost awareness.weightOf walk = left

variable {awareness : Awareness Rat} {goal region : Int} {left : Rat}

/-- What a search finds is what remains. -/
theorem Sound.remains_of_shortest (sound : awareness.Sound) {labels : Labels Rat}
    (shortest : awareness.Shortest region labels goal left) :
    awareness.Remains goal region left := by
  rcases shortest with ⟨least, best, isBest, summed, -⟩
  have total : ∀ {walk : List (Connection Rat)},
      awareness.network.Walk awareness.Knows region walk goal →
        awareness.total walk = .ok (cost awareness.weightOf walk) :=
    fun isWalk => sound.total_eq isWalk.mem_connections
  constructor
  · intro walk isWalk
    rcases least walk isWalk with ⟨sum, isSum, lower⟩
    cases isSum.symm.trans (total isWalk)
    exact lower
  · exact ⟨best, isBest, Except.ok.inj ((total isBest).symm.trans summed)⟩

namespace Remains

theorem unique {other : Rat} (first : awareness.Remains goal region left)
    (second : awareness.Remains goal region other) : left = other := by
  rcases first with ⟨least, walk, isWalk, rfl⟩
  rcases second with ⟨leastOther, way, isWay, rfl⟩
  exact le_antisymm (least way isWay) (leastOther walk isWalk)

/-- At the goal nothing remains. -/
theorem eq_zero (sound : awareness.Sound) (remains : awareness.Remains goal goal left) :
    left = 0 := by
  rcases remains with ⟨least, walk, isWalk, rfl⟩
  have free := least [] .stay
  have stays := eq_nil_of_cost_le_zero
    (fun connection member => sound.weightOf_pos (isWalk.mem_connections connection member)) free
  rw [stays]
  rfl

/-- Behind the first connection of a cheapest walk there remains less by the weight of this
connection, whichever cheapest walk it is. -/
theorem behind (remains : awareness.Remains goal region left) {connection : Connection Rat}
    {rest : List (Connection Rat)} {next : Int} (isNext : connection.destination = some next)
    (isWalk : awareness.network.Walk awareness.Knows region (connection :: rest) goal)
    (cheapest : cost awareness.weightOf (connection :: rest) = left) :
    awareness.Remains goal next (left - awareness.weightOf connection) := by
  rcases isWalk.uncons with ⟨isSource, isKnown, member, target, isTarget, onward⟩
  cases isNext.symm.trans isTarget
  have split : ∀ walk, cost awareness.weightOf (connection :: walk) =
      awareness.weightOf connection + cost awareness.weightOf walk := fun _ => List.sum_cons
  constructor
  · intro walk isWay
    have longer := remains.1 (connection :: walk)
      (isSource ▸ Walk.cons (isSource.symm ▸ isKnown) member isNext isWay)
    rw [split] at longer
    linarith
  · refine ⟨rest, onward, ?_⟩
    rw [split] at cheapest
    linarith

end Remains

/-! ## Knowledge on the way -/

/-- What becomes of an awareness when its agent enters a region: the region may become known, and
all weights stay. -/
structure Keeps (entered : Int) (before after : Awareness Rat) : Prop
    extends Grows before after where
  learnt : ∀ region, after.Knows region → before.Knows region ∨ region = entered
  weights : ∀ connection ∈ before.network.connections,
    after.weight connection.index = before.weight connection.index

theorem Keeps.refl (entered : Int) (awareness : Awareness Rat) :
    Keeps entered awareness awareness :=
  ⟨.refl _, fun _ isKnown => Or.inl isKnown, fun _ _ => rfl⟩

/-- The same regions are known of the same network, at the same weights. -/
structure Unchanged (first second : Awareness Rat) : Prop extends Grows first second where
  learnt : ∀ region, second.Knows region → first.Knows region
  weightOf : ∀ connection ∈ first.network.connections,
    second.weightOf connection = first.weightOf connection

namespace Unchanged

variable {first second third : Awareness Rat}

theorem refl (awareness : Awareness Rat) : Unchanged awareness awareness :=
  ⟨.refl _, fun _ isKnown => isKnown, fun _ _ => rfl⟩

/-- Entering a region that is known changes nothing. -/
theorem enter {entered : Int} (unchanged : Unchanged first second)
    (keeps : Keeps entered second third) (isKnown : second.Knows entered) :
    Unchanged first third where
  toGrows := unchanged.toGrows.trans keeps.toGrows
  learnt := by
    intro region nowKnown
    rcases keeps.learnt region nowKnown with before | rfl
    · exact unchanged.learnt region before
    · exact unchanged.learnt region isKnown
  weightOf := by
    intro connection member
    have same := keeps.weights connection (unchanged.network ▸ member)
    refine Eq.trans ?_ (unchanged.weightOf connection member)
    unfold Awareness.weightOf
    rw [same]

theorem remains_iff (unchanged : Unchanged first second) (goal region : Int) (left : Rat) :
    second.Remains goal region left ↔ first.Remains goal region left := by
  have same : ∀ walk, first.network.Walk first.Knows region walk goal →
      cost second.weightOf walk = cost first.weightOf walk := fun walk isWalk =>
    cost_congr fun connection member =>
      unchanged.weightOf connection (isWalk.mem_connections connection member)
  unfold Remains
  rw [unchanged.knows_eq unchanged.learnt, unchanged.network]
  constructor
  · rintro ⟨least, walk, isWalk, spent⟩
    exact ⟨fun way isWay => same way isWay ▸ least way isWay, walk, isWalk,
      (same walk isWalk).symm.trans spent⟩
  · rintro ⟨least, walk, isWalk, spent⟩
    exact ⟨fun way isWay => (same way isWay).symm ▸ least way isWay, walk, isWalk,
      (same walk isWalk).trans spent⟩

end Unchanged

end Awareness

/-! ## The course of an agent -/

/-- The agent stands in a region. -/
def Member.StandsIn (member : Member Rat) (building : Building Rat σ) (region : Int) : Prop :=
  ∃ here, member.awareness.network.regionFor building member.agent.position member.agent.floor =
    .ok here ∧ (here.index : Int) = region

/-- An agent that goes where it is sent: as long as its next hop is a region, it moves to a point of
this region.  It may come to know the region, and all weights stay as they are. -/
def Heeds (building : Building Rat σ) (goal : Nat) (course : Nat → Member Rat) : Prop :=
  ∀ count hop,
    (course count).awareness.nextHop building (course count).agent goal = .ok (.region hop) →
      (course (count + 1)).StandsIn building hop.index ∧
      Awareness.Keeps hop.index (course count).awareness (course (count + 1)).awareness

/-- How an agent has come to a region: along a walk, from region to region as it was sent, paying
what remained at the start less what remains now.  Nowhere on the walk did less remain. -/
structure Descends (building : Building Rat σ) (goal : Nat) (course : Nat → Member Rat)
    (start : Int) (whole : Rat) (walk : List (Connection Rat)) (here : Int) (left : Rat) :
    Prop where
  walked : (course 0).awareness.network.Walk (course 0).awareness.Knows start walk here
  unchanged : Awareness.Unchanged (course 0).awareness (course walk.length).awareness
  stands : ∀ count region, (passed start walk)[count]? = some region →
    (course count).StandsIn building region
  sent : ∀ count < walk.length, ∃ hop,
    (course count).awareness.nextHop building (course count).agent goal = .ok (.region hop)
  within : ¬ (course 0).awareness.OutOfReach here goal
  remains : (course 0).awareness.Remains goal here left
  spent : cost (course 0).awareness.weightOf walk + left = whole
  distinct : (passed start walk).Nodup
  dearer : ∀ region ∈ passed start walk, ∃ more,
    (course 0).awareness.Remains goal region more ∧ left ≤ more

variable {building : Building Rat σ} {goal : Nat} {course : Nat → Member Rat} {start here : Int}
  {whole left : Rat} {walk : List (Connection Rat)}

namespace Descends

theorem begin {region : Region Rat}
    (located : (course 0).awareness.network.regionFor building (course 0).agent.position
      (course 0).agent.floor = .ok region)
    (within : ¬ (course 0).awareness.OutOfReach region.index goal)
    (remains : (course 0).awareness.Remains goal region.index whole) :
    Descends building goal course region.index whole [] region.index whole where
  walked := .stay
  unchanged := .refl _
  stands := by
    intro count place isPassed
    rcases List.getElem?_eq_some_iff.mp isPassed with ⟨small, rfl⟩
    cases Nat.lt_one_iff.mp small
    exact ⟨region, located, rfl⟩
  sent := fun count few => absurd few (Nat.not_lt_zero count)
  within := within
  remains := remains
  spent := zero_add whole
  distinct := List.nodup_singleton _
  dearer := fun place isPassed => ⟨whole, List.mem_singleton.mp isPassed ▸ remains, le_refl _⟩

/-- A walk goes on through a connection behind which less remains. -/
theorem extend (descends : Descends building goal course start whole walk here left)
    {connection : Connection Rat} {hop : Region Rat} (isSource : connection.source = here)
    (isKnown : (course 0).awareness.Knows here)
    (member : connection ∈ (course 0).awareness.network.connections)
    (isNext : connection.destination = some ↑hop.index)
    (isHop : (course walk.length).awareness.nextHop building (course walk.length).agent goal =
      .ok (.region hop))
    (standsThere : (course (walk.length + 1)).StandsIn building hop.index)
    (unchanged : Awareness.Unchanged (course 0).awareness (course (walk.length + 1)).awareness)
    (remains : (course 0).awareness.Remains goal hop.index
      (left - (course 0).awareness.weightOf connection))
    (positive : 0 < (course 0).awareness.weightOf connection)
    (within : ¬ (course 0).awareness.OutOfReach hop.index goal) :
    Descends building goal course start whole (walk ++ [connection]) hop.index
      (left - (course 0).awareness.weightOf connection) := by
  have longer : (walk ++ [connection]).length = walk.length + 1 := by
    rw [List.length_append, List.length_singleton]
  -- Where the agent has been no less remained than here, and behind the connection less remains.
  have fresh : (hop.index : Int) ∉ passed start walk := by
    intro again
    rcases descends.dearer _ again with ⟨more, isMore, larger⟩
    cases isMore.unique remains
    linarith
  subst isSource
  constructor
  · exact descends.walked.follow isKnown member isNext
  · exact longer ▸ unchanged
  · intro count place isPassed
    rcases descends.walked.passed_onward isNext isPassed with earlier | ⟨rfl, rfl⟩
    · exact descends.stands count place earlier
    · exact standsThere
  · intro count few
    rcases Nat.lt_succ_iff_lt_or_eq.mp (longer ▸ few) with early | rfl
    · exact descends.sent count early
    · exact ⟨hop, isHop⟩
  · exact within
  · exact remains
  · rw [cost_append, ← descends.spent]
    simp only [cost, List.map_cons, List.map_nil, List.sum_cons, List.sum_nil]
    linarith
  · rw [passed_append isNext]
    refine List.nodup_append.mpr ⟨descends.distinct, List.nodup_singleton _, ?_⟩
    rintro place earlier last isLast rfl
    exact fresh (List.mem_singleton.mp isLast ▸ earlier)
  · intro place isPassed
    rw [passed_append isNext] at isPassed
    rcases List.mem_append.mp isPassed with earlier | last
    · rcases descends.dearer place earlier with ⟨more, isMore, larger⟩
      exact ⟨more, isMore, by linarith⟩
    · exact ⟨_, List.mem_singleton.mp last ▸ remains, le_refl _⟩

/-- Away from the goal the agent is sent on, and comes to a region where less remains. -/
theorem step (heeds : Heeds building goal course) (sound : (course 0).awareness.Sound)
    (inside : goal < (course 0).awareness.network.size)
    (descends : Descends building goal course start whole walk here left) (apart : here ≠ goal) :
    ∃ connection next, Descends building goal course start whole (walk ++ [connection]) next
      (left - (course 0).awareness.weightOf connection) := by
  have unchanged := descends.unchanged
  have soundNow := unchanged.sound sound
  rcases descends.stands _ _ descends.walked.getElem?_passed with ⟨region, located, rfl⟩
  have within := mt (unchanged.outOfReach_iff unchanged.learnt _ _).mp descends.within
  rcases soundNow.nextHop_cases soundNow.laws located (unchanged.network.symm ▸ inside) within with
    ⟨arrived, -⟩ | ⟨-, hop, connection, rest, total, labels, isHop, isNext, isWalk, nextKnown, -,
      summed, shortest⟩
  · exact absurd (congrArg Int.ofNat arrived) apart
  · have remainsNow := soundNow.remains_of_shortest shortest
    cases ((unchanged.remains_iff _ _ _).mp remainsNow).unique descends.remains
    have cheapest := Except.ok.inj ((soundNow.total_eq isWalk.mem_connections).symm.trans summed)
    have onward := (unchanged.remains_iff _ _ _).mp (remainsNow.behind isNext isWalk cheapest)
    rw [unchanged.network, unchanged.knows_eq unchanged.learnt] at isWalk
    rcases isWalk.uncons with ⟨isSource, isKnown, member, -⟩
    rw [unchanged.weightOf connection member] at onward
    have positive := sound.weightOf_pos member
    have sentOn := heeds _ hop isHop
    refine ⟨connection, hop.index, descends.extend isSource isKnown member isNext isHop sentOn.1
      (unchanged.enter sentOn.2 nextKnown) onward positive ?_⟩
    rintro ⟨-, unknown | noWalk⟩
    · exact descends.within ⟨apart, Or.inl unknown⟩
    · exact noWalk (onward.2.imp fun _ isWay => isWay.1)

/-- The agent arrives, since it never comes to a region twice. -/
theorem arrival (heeds : Heeds building goal course) (sound : (course 0).awareness.Sound)
    (startInside : (course 0).awareness.network.Holds start)
    (inside : goal < (course 0).awareness.network.size) (moves : Nat)
    (descends : Descends building goal course start whole walk here left)
    (enough : (course 0).awareness.network.size ≤ walk.length + moves) :
    ∃ walk left, Descends building goal course start whole walk goal left := by
  induction moves generalizing walk here left with
  | zero =>
    have few := descends.walked.length_lt_size sound.formed startInside descends.distinct
    omega
  | succ moves hypothesis =>
    by_cases arrived : here = goal
    · subst arrived
      exact ⟨walk, left, descends⟩
    · rcases descends.step heeds sound inside arrived with ⟨connection, next, further⟩
      refine hypothesis further ?_
      rw [List.length_append, List.length_singleton]
      omega

/-- At the goal the agent has paid what remained at the start, and is sent to a point. -/
theorem arrived (sound : (course 0).awareness.Sound)
    (inside : goal < (course 0).awareness.network.size)
    (descends : Descends building goal course start whole walk goal left) :
    cost (course 0).awareness.weightOf walk = whole ∧ ∃ point,
      (course walk.length).awareness.nextHop building (course walk.length).agent goal =
        .ok (.point point) := by
  have unchanged := descends.unchanged
  constructor
  · have nothing := descends.remains.eq_zero sound
    have spent := descends.spent
    linarith
  · have soundNow := unchanged.sound sound
    have insideNow := unchanged.network.symm ▸ inside
    rcases descends.stands _ _ descends.walked.getElem?_passed with ⟨region, located, isGoal⟩
    have within := mt (unchanged.outOfReach_iff unchanged.learnt region.index goal).mp
      (isGoal ▸ descends.within)
    rcases soundNow.nextHop_cases soundNow.laws located insideNow within with
      ⟨-, point⟩ | ⟨apart, -⟩
    · exact point
    · exact absurd (Int.ofNat.inj isGoal) apart

end Descends

/-- A goal to which there is a route is a region within reach. -/
theorem Awareness.Sound.within_of_route {awareness : Awareness Rat} (sound : awareness.Sound)
    {start : Nat} (startInside : start < awareness.network.size) {path : List Int}
    (routed : awareness.route start goal = .ok path) :
    goal < awareness.network.size ∧ ¬ awareness.OutOfReach start goal := by
  have inside : goal < awareness.network.size := by
    rcases bind_eq_ok.mp routed with ⟨_, -, rest⟩
    rcases bind_eq_ok.mp rest with ⟨stop, isStop, -⟩
    rcases Network.indexOf_eq_ok_iff.mp isStop with ⟨same, stopInside⟩
    exact Int.ofNat.inj same ▸ stopInside
  refine ⟨inside, fun outOfReach => ?_⟩
  cases routed.symm.trans (sound.route_of_outOfReach sound.laws startInside inside outOfReach)

/-- An agent that has a route to a goal and always goes where it is sent walks to the goal through
known regions, in fewer moves than there are regions and without coming to any region twice.  The
doors that it takes cost together exactly what a search from its start says of the goal. -/
theorem Heeds.walks_cheapest_way (sound : (course 0).awareness.Sound)
    (simple : (course 0).awareness.network.Simple) {region : Region Rat}
    (located : (course 0).awareness.network.regionFor building (course 0).agent.position
      (course 0).agent.floor = .ok region)
    {path : List Int} (routed : (course 0).awareness.route region.index goal = .ok path)
    (heeds : Heeds building goal course) :
    ∃ walk labels label,
      (course 0).awareness.network.Walk (course 0).awareness.Knows region.index walk goal ∧
      walk.length < (course 0).awareness.network.size ∧ (passed region.index walk).Nodup ∧
      (∀ count place, (passed region.index walk)[count]? = some place →
        (course count).StandsIn building place) ∧
      (∀ count < walk.length, ∃ hop, (course count).awareness.nextHop building
        (course count).agent goal = .ok (.region hop)) ∧
      (∃ point, (course walk.length).awareness.nextHop building (course walk.length).agent goal =
        .ok (.point point)) ∧
      (course 0).awareness.distances region.index none = .ok labels ∧
      labels.find? goal = some label ∧ (course 0).awareness.total walk = .ok label.cost ∧
      (course 0).awareness.routeCost (passed region.index walk) = .ok label.cost := by
  have regionInside := sound.formed.region_lt_of_mem (regionFor_mem located)
  rcases sound.within_of_route regionInside routed with ⟨inside, within⟩
  have startInside : (course 0).awareness.network.Holds region.index :=
    ⟨Int.natCast_nonneg _, Int.ofNat_lt.mpr regionInside⟩
  have walks : ∃ walk, (course 0).awareness.network.Walk (course 0).awareness.Knows region.index
      walk goal := by
    by_cases same : (region.index : Int) = goal
    · exact ⟨[], same ▸ .stay⟩
    · exact not_not.mp (not_or.mp fun noWay => within ⟨same, noWay⟩).2
  rcases walks with ⟨some, isSome⟩
  rcases sound.label_within_reach regionInside isSome with
    ⟨labels, label, searched, isLabel, shortest⟩
  rcases (Descends.begin located within (sound.remains_of_shortest shortest)).arrival heeds sound
    startInside inside _ (Nat.le_add_left _ _) with ⟨walk, left, descends⟩
  rcases descends.arrived sound inside with ⟨spent, point⟩
  have total := sound.total_eq descends.walked.mem_connections
  rw [spent] at total
  exact ⟨walk, labels, label, descends.walked,
    descends.walked.length_lt_size sound.formed startInside descends.distinct, descends.distinct,
    descends.stands, descends.sent, point, searched, isLabel, total,
    (Awareness.addUp_passed sound.formed simple Scalar.zero descends.walked).trans total⟩

/-- An agent that knows the whole row and walks through it, one room after another. -/
def eastbound (count : Nat) : Member Rat where
  agent :=
    { Guidance.walker with position := ⟨if count = 0 then 1 else if count = 1 then 3 else 5, 1⟩ }
  awareness := Awareness.inRow true []

/-- The region that a hop leads to, if it leads to one. -/
def Hop.index? : Hop Rat → Option Nat
  | .region place => some place.index
  | .point _ => none

theorem eastbound_heeds : Heeds Building.row 2 eastbound := by
  have places : ∀ count < 3, ((eastbound count).awareness.network.regionFor Building.row
      (eastbound count).agent.position (eastbound count).agent.floor).toOption.map Region.index =
        some count := by
    decide +kernel
  have hops : ∀ count < 3, ((eastbound count).awareness.nextHop Building.row
      (eastbound count).agent 2).toOption.map Hop.index? = [some 1, some 2, none][count]? := by
    decide +kernel
  have stands : ∀ count < 3, (eastbound count).StandsIn Building.row count := by
    intro count small
    rcases exists_of_view (places count small) with ⟨here, located, same⟩
    exact ⟨here, located, congrArg Int.ofNat same⟩
  have sent : ∀ count < 3, ∀ hop, (eastbound count).awareness.nextHop Building.row
      (eastbound count).agent 2 = .ok (.region hop) →
        some (some hop.index) = [some 1, some 2, none][count]? := by
    intro count small hop isHop
    have shown := hops count small
    rw [isHop] at shown
    exact shown
  intro count hop isHop
  refine ⟨?_, .refl _ _⟩
  match count, isHop with
  | 0, isHop =>
    have isNext : hop.index = 1 := Option.some.inj (Option.some.inj (sent 0 (by decide) hop isHop))
    rw [isNext]
    exact stands 1 (by decide)
  | 1, isHop =>
    have isNext : hop.index = 2 := Option.some.inj (Option.some.inj (sent 1 (by decide) hop isHop))
    rw [isNext]
    exact stands 2 (by decide)
  | _ + 2, isHop => cases sent 2 (by decide) hop isHop

/-- In the row, the agent walks from the first room to the last, through two doors. -/
theorem walks_cheapest_way_in_row :
    (eastbound 0).awareness.Sound ∧ (eastbound 0).awareness.network.Simple ∧
    Heeds Building.row 2 eastbound ∧
    ∃ region path, (eastbound 0).awareness.network.regionFor Building.row
      (eastbound 0).agent.position (eastbound 0).agent.floor = .ok region ∧
    (eastbound 0).awareness.route region.index 2 = .ok path ∧
    ∃ walk labels label,
      (eastbound 0).awareness.network.Walk (eastbound 0).awareness.Knows region.index walk 2 ∧
      walk.length < (eastbound 0).awareness.network.size ∧ (passed region.index walk).Nodup ∧
      (∀ count place, (passed region.index walk)[count]? = some place →
        (eastbound count).StandsIn Building.row place) ∧
      (∀ count < walk.length, ∃ hop, (eastbound count).awareness.nextHop Building.row
        (eastbound count).agent 2 = .ok (.region hop)) ∧
      (∃ point, (eastbound walk.length).awareness.nextHop Building.row
        (eastbound walk.length).agent 2 = .ok (.point point)) ∧
      (eastbound 0).awareness.distances region.index none = .ok labels ∧
      labels.find? 2 = some label ∧ (eastbound 0).awareness.total walk = .ok label.cost ∧
      (eastbound 0).awareness.routeCost (passed region.index walk) = .ok label.cost := by
  have sound : (eastbound 0).awareness.Sound := Awareness.inRow_sound true []
  have stands : ((eastbound 0).awareness.network.regionFor Building.row
      (eastbound 0).agent.position (eastbound 0).agent.floor).toOption.map Region.index =
        some 0 := by
    decide +kernel
  rcases exists_of_view stands with ⟨region, located, isFirst⟩
  have routed : ((eastbound 0).awareness.route region.index 2).isOk = true := by
    rw [isFirst]
    decide +kernel
  have routed := eq_ok_of_isOk routed []
  exact ⟨sound, Building.row_simple, eastbound_heeds, region, _, located, routed,
    eastbound_heeds.walks_cheapest_way sound Building.row_simple located routed⟩

end Egress
