import Egress.Proofs.Frontier
import Egress.Proofs.Hop
import Egress.Proofs.Table

/-!
# Reach without arithmetic

Which regions a search reaches does not depend on the weights, so it needs no laws of costs: sums
may overflow, and weights need not even be comparable.  As long as every connection has a weight, a
known goal to which a walk leads through known regions has a route, and a frontier can be ranked.
In which order it is ranked is another matter.
-/

namespace Egress

variable {α σ : Type} [Scalar α]

namespace Awareness

variable {awareness : Awareness α} {start goal : Nat}

/-- Whatever the factors are, every connection of a weighable network has a weight. -/
theorem weighed_of_grows {network : Network α} {settings : Settings α} {complete : Bool}
    (weighable : network.Weighable settings)
    (grows : (Awareness.ofNetwork network complete settings).Grows awareness) :
    awareness.Weighed := by
  rcases weighable.bounds with ⟨low, high, lowest, highest⟩
  have numeric : awareness.tariff.Numeric low high := by
    refine ⟨?_, ?_, ?_⟩
    · rw [grows.lowest]
      exact lowest
    · rw [grows.highest]
      exact highest
    · rw [grows.baseCosts]
      intro base member
      rcases List.mem_map.mp member with ⟨connection, isConnection, rfl⟩
      exact weighable.based connection isConnection
  refine weighed_of_numeric (grows.network ▸ weighable.formed) ?_ numeric
  rw [grows.baseCosts, grows.network]
  rfl

/-- A search ends with labels that lead back, for every region to which a walk leads if it is not
stopped, and for the goal if it is. -/
theorem Weighed.search_reaches (weighed : awareness.Weighed)
    (inside : start < awareness.network.size) (goal : Option Nat) :
    ∃ final, awareness.search start goal = .ok final ∧
      Search.Rooted awareness.arcsFrom awareness.network.Holds start final ∧
      ∀ region walk, goal.map Int.ofNat = none ∨ goal.map Int.ofNat = some region →
        awareness.network.Walk awareness.Knows start walk region →
          ∃ label, final.labels.find? region = some label := by
  rcases weighed.search_opens inside with ⟨domain, isDomain, closed, opened, isStart, enough⟩
  rcases Search.run_reaches closed opened (goal.map Int.ofNat) _ _ (.begin isStart)
    (fun region member => absurd member List.not_mem_nil) enough with
    ⟨final, ended, rooted, reached⟩
  rw [isDomain] at rooted
  refine ⟨final, ended, rooted, fun region walk sought isWalk => ?_⟩
  rcases weighed.trail_of_walk isWalk with ⟨back, cost, trail, -⟩
  exact reached region back cost sought trail

/-- A route to another region begins with two regions of the network, or there is none because the
goal is out of reach. -/
theorem Weighed.route_cases (weighed : awareness.Weighed)
    (startInside : start < awareness.network.size) (goalInside : goal < awareness.network.size)
    (different : start ≠ goal) :
    (∃ first next rest, awareness.route start goal = .ok (first :: next :: rest) ∧
      awareness.network.Holds next) ∨
    awareness.route start goal = .error (.noRoute start goal) ∧
      awareness.OutOfReach start goal := by
  have apart : (start : Int) ≠ goal := fun same => different (Int.ofNat.inj same)
  rw [route_of_ne startInside goalInside different]
  by_cases goalKnown : awareness.Knows goal
  · rcases weighed.search_reaches startInside (some goal) with
      ⟨final, searched, rooted, reached⟩
    rw [if_pos goalKnown, searched, Except.bind, Table.contains]
    cases found : final.labels.find? goal with
    | none =>
      refine Or.inr ⟨rfl, apart, Or.inr ?_⟩
      rintro ⟨walk, isWalk⟩
      rcases reached goal walk (Or.inr rfl) isWalk with ⟨label, isLabel⟩
      cases found.symm.trans isLabel
    | some label =>
      rcases rooted.wayBack goal label found with ⟨back, leads, distinct, -⟩
      rcases rooted.led goal label found apart.symm with ⟨previous, isPrevious, -⟩
      rcases leads.exists_two found isPrevious with ⟨first, next, rest, reversed⟩
      have isKey : next ∈ final.labels.keys := by
        refine leads.labelled next (List.mem_reverse.mp ?_)
        rw [reversed]
        exact List.mem_cons_of_mem _ List.mem_cons_self
      rcases Table.mem_keys_iff.mp isKey with ⟨behind, isBehind⟩
      refine Or.inl ⟨first, next, rest, ?_, rooted.inside next behind isBehind⟩
      rw [Option.isSome_some, if_pos rfl, leads.backtrack_size distinct, reversed]
  · rw [if_neg goalKnown]
    exact Or.inr ⟨rfl, apart, Or.inl goalKnown⟩

variable [Outline σ α] {building : Building α σ} {agent : Agent α} {source : Region α}

/-- The next hop of an agent is found, or refused because the goal is out of reach. -/
theorem Weighed.nextHop_cases (weighed : awareness.Weighed)
    (located : awareness.network.regionFor building agent.position agent.floor = .ok source)
    (inside : goal < awareness.network.size) :
    (∃ hop, awareness.nextHop building agent goal = .ok hop) ∨
    awareness.nextHop building agent goal = .error (.noRoute source.index goal) ∧
      awareness.OutOfReach source.index goal := by
  rcases nextHop_eq weighed.formed located inside with ⟨region, -, isHop⟩
  rw [isHop]
  by_cases same : source.index = goal
  · exact Or.inl ⟨_, if_pos same⟩
  · rw [if_neg same]
    have sourceInside := weighed.formed.region_lt_of_mem (Network.regionFor_mem located)
    rcases weighed.route_cases sourceInside inside same with
      ⟨first, next, rest, found, nextInside⟩ | ⟨refused, outOfReach⟩
    · rcases Int.eq_ofNat_of_zero_le nextInside.1 with ⟨index, rfl⟩
      rcases weighed.formed.region_of_lt (show index < awareness.network.size by
        have := nextInside.2; omega) with ⟨hop, -, -, -, isRegion⟩
      refine Or.inl ⟨.region hop, ?_⟩
      rw [found, Except.bind, Network.hopAlong, isRegion]
      rfl
    · rw [refused]
      exact Or.inr ⟨rfl, outOfReach⟩

end Awareness

namespace Guidance

variable {guidance : Guidance α} {pid : Int} {member : Member α}

/-- The frontier that an agent sees is that of its awareness, ranked by cost. -/
theorem frontier_eq (isMember : guidance.members.find? pid = some member) {here : Int}
    (isHere : member.agent.region = some here) {regions : List (Region α)} {labels : Labels α}
    (frontier : member.awareness.frontier = .ok regions)
    (searched : member.awareness.distances here none = .ok labels) :
    guidance.frontier pid = .ok (Ranking.ofList (nearer labels) regions) := by
  simp only [Guidance.frontier, member_eq_ok_iff.mpr isMember, frontier, isHere, searched, bind,
    Except.bind]
  cases regions with
  | nil => rfl
  | cons nearest others => rfl

/-- A frontier is ranked without a fault, and holds what lies behind the connections that leave
known regions. -/
theorem frontier_ranked (weighed : member.awareness.Weighed)
    (isMember : guidance.members.find? pid = some member) {here : Nat}
    (isHere : member.agent.region = some ↑here) (inside : here < member.awareness.network.size) :
    ∃ ranked, guidance.frontier pid = .ok ranked ∧
      ∀ index, index ∈ member.awareness.frontierIndices ↔
        ∃ region ∈ ranked, (region.index : Int) = index := by
  rcases Awareness.frontier_spec weighed.formed with ⟨regions, frontier, -, indices⟩
  rcases weighed.search_reaches inside none with ⟨final, searched, -⟩
  have distances : member.awareness.distances here none = .ok final.labels :=
    Awareness.distances_of_search inside (by simp) searched
  refine ⟨_, frontier_eq isMember isHere frontier distances, fun index => ?_⟩
  simp only [(Ranking.ofList_perm (nearer final.labels) regions).mem_iff]
  rw [← indices, List.mem_map]

end Guidance

end Egress
