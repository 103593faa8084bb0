import Egress.Proofs.Distances

/-!
# Routes

There is a route to every known region to which a walk leads that leaves only known regions, and to
no other region.  Whether there is one does not depend on the tariff: blocked doors and smoke make a
way dear, never impossible.  A route joins its two ends, passes only known regions and none of them
twice, and costs what the labels of a full search say.

Costs are exact here, since the cost of a route is compared with that of another search.
-/

namespace Egress.Awareness

variable {α : Type} [Scalar α] {awareness : Awareness α}

/-- A known live connection leads from one region to the other. -/
def Joins (awareness : Awareness α) (source target : Int) : Prop :=
  awareness.Knows source ∧ ∃ connection ∈ awareness.network.connections,
    connection.source = source ∧ connection.destination = some target

/-- What a route is. -/
structure IsRoute (awareness : Awareness α) (start goal : Int) (route : List Int) : Prop where
  starts : route.head? = some start
  ends : route.getLast? = some goal
  distinct : route.Nodup
  joined : route.IsChain awareness.Joins
  known : start ≠ goal → ∀ region ∈ route, awareness.Knows region

/-- There is somewhere to go, and the goal is not known or no walk leads there that leaves only
known regions. -/
def OutOfReach (awareness : Awareness α) (start goal : Int) : Prop :=
  start ≠ goal ∧ (¬ awareness.Knows goal ∨
    ¬ ∃ walk, awareness.network.Walk awareness.Knows start walk goal)

omit [Scalar α] in
/-- The connections of a walk join the regions that it passes. -/
theorem joined_of_walk {walk : List (Connection α)} {start region : Int}
    (isWalk : awareness.network.Walk awareness.Knows start walk region) :
    (Network.passed start walk).IsChain awareness.Joins := by
  induction walk generalizing start with
  | nil => exact List.isChain_singleton start
  | cons connection rest hypothesis =>
    rcases isWalk.uncons with ⟨isSource, isKnown, member, target, isTarget, onward⟩
    rw [Network.passed_cons isTarget]
    exact List.isChain_cons_cons.mpr
      ⟨⟨isKnown, connection, member, isSource, isTarget⟩, hypothesis onward⟩

omit [Scalar α] in
/-- A walk leaves only known regions, so it passes none but these and its end. -/
theorem known_of_walk {walk : List (Connection α)} {start region : Int}
    (isWalk : awareness.network.Walk awareness.Knows start walk region)
    (ends : awareness.Knows region) :
    ∀ passed ∈ Network.passed start walk, awareness.Knows passed := by
  induction walk generalizing start with
  | nil =>
    intro passed member
    cases List.mem_singleton.mp member
    exact isWalk.start_of_nil ▸ ends
  | cons connection rest hypothesis =>
    rcases isWalk.uncons with ⟨isSource, isKnown, member, target, isTarget, onward⟩
    intro passed isPassed
    rw [Network.passed_cons isTarget] at isPassed
    rcases List.mem_cons.mp isPassed with rfl | later
    · exact isKnown
    · exact hypothesis onward passed later

/-- Adding up the regions that a walk passes finds its connections again. -/
theorem addUp_passed (formed : awareness.network.WellFormed) (simple : awareness.network.Simple)
    {walk : List (Connection α)} {start region : Int} (sum : α)
    (isWalk : awareness.network.Walk awareness.Knows start walk region) :
    routeCost.addUp awareness sum (Network.passed start walk) =
      walk.foldlM (fun sum connection => do return sum + (← awareness.weight connection.index))
        sum := by
  induction walk generalizing start sum with
  | nil => rfl
  | cons connection rest hypothesis =>
    rcases isWalk.uncons with ⟨rfl, isKnown, member, target, isTarget, onward⟩
    rcases Int.eq_ofNat_of_zero_le (formed.destination_lt connection member target isTarget).1 with
      ⟨index, rfl⟩
    rw [Network.passed_cons isTarget, List.foldlM_cons]
    have unfolded : ∀ regions, routeCost.addUp awareness sum
        (↑connection.source :: ↑index :: regions) = (do
          let sum ← (do return sum + (← awareness.weight connection.index))
          routeCost.addUp awareness sum (↑index :: regions)) := by
      intro regions
      rw [routeCost.addUp, formed.connectionBetween_of_mem simple member rfl isTarget]
      simp only [bind, Except.bind, pure, Except.pure]
      cases awareness.weight connection.index with
      | error fault => rfl
      | ok weight => rfl
    refine (unfolded _).trans ?_
    cases awareness.weight connection.index with
    | error fault => rfl
    | ok weight => exact hypothesis (sum + weight) onward

/-! ## Finding a route -/

variable {start goal : Nat}

/-- The route to another region: what leads back from the goal, if the goal is known and a search
that stops there labels it. -/
theorem route_of_ne (startInside : start < awareness.network.size)
    (goalInside : goal < awareness.network.size) (different : start ≠ goal) :
    awareness.route start goal =
      if awareness.Knows goal then
        (awareness.search start (some goal)).bind fun final =>
          if final.labels.contains goal then
            .ok (final.labels.backtrack final.labels.size goal [])
          else .error (.noRoute start goal)
      else .error (.noRoute start goal) := by
  simp only [route, Network.indexOf_of_lt startInside, Network.indexOf_of_lt goalInside,
    knows_of_lt goalInside, bind, Except.bind, if_neg different]
  by_cases isKnown : awareness.Knows goal
  · rw [if_pos isKnown, decide_eq_true isKnown]
    rfl
  · rw [if_neg isKnown, decide_eq_false isKnown]
    rfl

/-- A search that is stopped at the goal finds the cheapest way there, if there is one. -/
theorem Sound.route_of_walk (sound : awareness.Sound) (laws : LawfulCosts awareness.Weights)
    (startInside : start < awareness.network.size) (goalInside : goal < awareness.network.size)
    (different : start ≠ goal) (goalKnown : awareness.Knows goal) {walk : List (Connection α)}
    (isWalk : awareness.network.Walk awareness.Knows start walk goal) :
    ∃ best cost, awareness.route start goal = .ok (Network.passed start best) ∧
      awareness.network.Walk awareness.Knows start best goal ∧
      awareness.total best = .ok cost ∧ awareness.IsRoute start goal (Network.passed start best) ∧
      ∃ labels, awareness.Shortest start labels goal cost := by
  rcases sound.weighed.search_outcome laws startInside (some goal) with
    ⟨final, searched, outcome⟩
  have sought : (some goal).map Int.ofNat = none ∨ (some goal).map Int.ofNat = some (goal : Int) :=
    Or.inr rfl
  rcases sound.weighed.label_of_walk outcome sought isWalk with ⟨label, total, found, -⟩
  have shortest := sound.shortest_of_label outcome sought found
  rcases walk_of_label outcome found with ⟨best, back, isBest, summed, passes, leads, distinct⟩
  have reversed : ((goal : Int) :: back).reverse = Network.passed start best := by
    rw [← passes, List.reverse_reverse]
  refine ⟨best, label.cost, ?_, isBest, summed, ?_, final.labels, shortest⟩
  · have contained : final.labels.contains goal = true := by
      unfold Table.contains
      rw [found]
      rfl
    rw [route_of_ne startInside goalInside different, if_pos goalKnown, searched, Except.bind,
      if_pos contained, leads.backtrack_size distinct, reversed]
  · constructor
    · rfl
    · rw [List.getLast?_eq_head?_reverse, passes]
      rfl
    · rw [← reversed]
      exact List.nodup_reverse.mpr distinct
    · exact joined_of_walk isBest
    · exact fun _ => known_of_walk isBest goalKnown

/-- Without a way to the goal there is no route, and the fault says between which regions. -/
theorem Weighed.route_of_outOfReach (weighed : awareness.Weighed)
    (laws : LawfulCosts awareness.Weights) (startInside : start < awareness.network.size)
    (goalInside : goal < awareness.network.size) (outOfReach : awareness.OutOfReach start goal) :
    awareness.route start goal = .error (.noRoute start goal) := by
  rcases outOfReach with ⟨apart, noWay⟩
  have different : start ≠ goal := fun same => apart (congrArg Int.ofNat same)
  rw [route_of_ne startInside goalInside different]
  by_cases goalKnown : awareness.Knows goal
  · rcases weighed.search_outcome laws startInside (some goal) with
      ⟨final, searched, outcome⟩
    have absent : final.labels.contains goal = false := by
      unfold Table.contains
      cases found : final.labels.find? goal with
      | none => rfl
      | some label =>
        rcases walk_of_label outcome found with ⟨walk, back, isWalk, -⟩
        exact absurd ⟨walk, isWalk⟩ (noWay.resolve_left (not_not_intro goalKnown))
    rw [if_pos goalKnown, searched, Except.bind, absent]
    rfl
  · rw [if_neg goalKnown]

theorem Sound.route_of_outOfReach (sound : awareness.Sound) (laws : LawfulCosts awareness.Weights)
    (startInside : start < awareness.network.size) (goalInside : goal < awareness.network.size)
    (outOfReach : awareness.OutOfReach start goal) :
    awareness.route start goal = .error (.noRoute start goal) :=
  sound.weighed.route_of_outOfReach laws startInside goalInside outOfReach

theorem route_self (inside : start < awareness.network.size) :
    awareness.route start start = .ok [(start : Int)] := by
  simp only [route, Network.indexOf_of_lt inside, bind, Except.bind, if_true]
  rfl

/-- Everything within reach has a route, which passes what a walk passes. -/
theorem Sound.route_within (sound : awareness.Sound) (laws : LawfulCosts awareness.Weights)
    (startInside : start < awareness.network.size) (goalInside : goal < awareness.network.size)
    (within : ¬ awareness.OutOfReach start goal) :
    ∃ best, awareness.route start goal = .ok (Network.passed start best) ∧
      awareness.network.Walk awareness.Knows start best goal := by
  by_cases same : start = goal
  · subst same
    exact ⟨[], route_self startInside, .stay⟩
  · have apart : (start : Int) ≠ goal := fun equal => same (Int.ofNat.inj equal)
    have reached := not_or.mp fun noWay => within ⟨apart, noWay⟩
    rcases not_not.mp reached.2 with ⟨walk, isWalk⟩
    rcases sound.route_of_walk laws startInside goalInside same (not_not.mp reached.1) isWalk with
      ⟨best, cost, found, isBest, -⟩
    exact ⟨best, found, isBest⟩

/-- There is a route exactly to what is within reach. -/
theorem Sound.route_eq_noRoute_iff (sound : awareness.Sound) (laws : LawfulCosts awareness.Weights)
    (startInside : start < awareness.network.size) (goalInside : goal < awareness.network.size) :
    awareness.route start goal = .error (.noRoute start goal) ↔
      awareness.OutOfReach start goal := by
  constructor
  · intro refused
    by_contra within
    rcases sound.route_within laws startInside goalInside within with ⟨best, found, -⟩
    cases refused.symm.trans found
  · exact sound.route_of_outOfReach laws startInside goalInside

/-! ## Exact costs -/

/-- Two least totals for one region are equal. -/
theorem Shortest.unique {awareness : Awareness Rat} {start region : Int}
    {labels others : Labels Rat} {first second : Rat}
    (shortest : awareness.Shortest start labels region first)
    (alike : awareness.Shortest start others region second) : first = second := by
  rcases shortest with ⟨least, walk, isWalk, summed, -⟩
  rcases alike with ⟨leastAlike, other, isOther, otherSummed, -⟩
  rcases least other isOther with ⟨total, isTotal, lower⟩
  rcases leastAlike walk isWalk with ⟨otherTotal, isOtherTotal, upper⟩
  cases isTotal.symm.trans otherSummed
  cases isOtherTotal.symm.trans summed
  exact le_antisymm lower upper

/-- Staying costs nothing. -/
theorem Sound.cost_of_shortest_self {awareness : Awareness Rat} (sound : awareness.Sound)
    {region : Int} {labels : Labels Rat} {cost : Rat}
    (shortest : awareness.Shortest region labels region cost) : cost = Scalar.zero := by
  rcases shortest with ⟨least, walk, isWalk, summed, -⟩
  rcases least [] .stay with ⟨nothing, isNothing, upper⟩
  cases isNothing
  rcases sound.weighed.trail_of_walk isWalk with ⟨back, same, trail, isSame⟩
  cases isSame.symm.trans summed
  exact le_antisymm upper (sound.laws.zero_le (trail.isCost weights_of_mem_arcsFrom))

/-- The label that a full search gives to a region within reach. -/
theorem Sound.label_within_reach {awareness : Awareness Rat} (sound : awareness.Sound)
    (startInside : start < awareness.network.size) {region : Int} {walk : List (Connection Rat)}
    (isWalk : awareness.network.Walk awareness.Knows start walk region) :
    ∃ labels label, awareness.distances start none = .ok labels ∧
      labels.find? region = some label ∧
      awareness.Shortest start labels region label.cost := by
  rcases sound.distances_outcome sound.laws startInside with ⟨final, searched, outcome⟩
  rcases sound.weighed.label_of_walk outcome (Or.inl rfl) isWalk with ⟨label, total, found, -⟩
  exact ⟨final.labels, label, searched, found, sound.shortest_of_label outcome (Or.inl rfl) found⟩

/-- What routes are found, and at which costs, where no pair of regions has two connections.  The
factors on the connections decide which route is found, and never whether one is. -/
theorem route_within_reach {awareness : Awareness Rat} (sound : awareness.Sound)
    (simple : awareness.network.Simple) (startInside : start < awareness.network.size)
    (goalInside : goal < awareness.network.size) :
    (awareness.route start goal = .error (.noRoute start goal) ↔
      awareness.OutOfReach start goal) ∧
    (∀ tariff, ({ awareness with tariff } : Awareness Rat).Sound →
      (({ awareness with tariff } : Awareness Rat).route start goal = .error (.noRoute start goal) ↔
        awareness.route start goal = .error (.noRoute start goal))) ∧
    (¬ awareness.OutOfReach start goal → ∃ route labels label,
      awareness.route start goal = .ok route ∧ awareness.IsRoute start goal route ∧
      awareness.distances start none = .ok labels ∧ labels.find? goal = some label ∧
      awareness.routeCost route = .ok label.cost) := by
  refine ⟨sound.route_eq_noRoute_iff sound.laws startInside goalInside, ?_, ?_⟩
  · intro tariff alike
    rw [sound.route_eq_noRoute_iff sound.laws startInside goalInside]
    exact alike.route_eq_noRoute_iff alike.laws startInside goalInside
  · intro within
    by_cases same : start = goal
    · subst same
      rcases sound.label_within_reach startInside .stay with
        ⟨labels, label, searched, found, shortest⟩
      refine ⟨[(start : Int)], labels, label, route_self startInside, ?_, searched, found, ?_⟩
      · exact ⟨rfl, rfl, List.nodup_singleton _, List.isChain_singleton _,
          fun apart => absurd rfl apart⟩
      · rw [sound.cost_of_shortest_self shortest]
        rfl
    · have apart : (start : Int) ≠ goal := fun equal => same (Int.ofNat.inj equal)
      have reached := not_or.mp fun noWay => within ⟨apart, noWay⟩
      rcases not_not.mp reached.2 with ⟨walk, isWalk⟩
      rcases sound.route_of_walk sound.laws startInside goalInside same (not_not.mp reached.1)
        isWalk with ⟨best, cost, found, isBest, summed, isRoute, stoppedLabels, stopped⟩
      rcases sound.label_within_reach startInside isWalk with
        ⟨labels, label, searched, isLabel, shortest⟩
      refine ⟨_, labels, label, found, isRoute, searched, isLabel, ?_⟩
      rw [shortest.unique stopped]
      exact (addUp_passed sound.formed simple Scalar.zero isBest).trans summed

/-- In the row, an agent that knows everything has a route from the first room to the last. -/
theorem route_within_reach_in_row :
    (inRow true []).Sound ∧ (inRow true []).network.Simple ∧
    0 < (inRow true []).network.size ∧ 2 < (inRow true []).network.size ∧
    ((inRow true []).route 0 2 = .error (.noRoute 0 2) ↔ (inRow true []).OutOfReach 0 2) ∧
    (∀ tariff, ({ inRow true [] with tariff } : Awareness Rat).Sound →
      (({ inRow true [] with tariff } : Awareness Rat).route 0 2 = .error (.noRoute 0 2) ↔
        (inRow true []).route 0 2 = .error (.noRoute 0 2))) ∧
    (¬ (inRow true []).OutOfReach 0 2 → ∃ route labels label,
      (inRow true []).route 0 2 = .ok route ∧ (inRow true []).IsRoute 0 2 route ∧
      (inRow true []).distances 0 none = .ok labels ∧ labels.find? 2 = some label ∧
      (inRow true []).routeCost route = .ok label.cost) := by
  have sound := inRow_sound true []
  have startInside : 0 < (inRow true []).network.size := by decide +kernel
  have goalInside : 2 < (inRow true []).network.size := by decide +kernel
  exact ⟨sound, Building.row_simple, startInside, goalInside,
    route_within_reach sound Building.row_simple startInside goalInside⟩

end Egress.Awareness
