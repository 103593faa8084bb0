import Egress.Proofs.Guidance
import Egress.Proofs.Route

/-!
# Next hops

The next hop of an agent is the second region of its route, or a point once it stands in the target
region.  It fails for want of a route exactly where the target is out of reach of what the agent
knows.
-/

namespace Egress

variable {α σ : Type} [Scalar α] [Outline σ α]

namespace Network

omit [Scalar α] [Outline σ α] in
/-- A region that is found by its id is a region of the network. -/
theorem findRegion?_mem {network : Network α} {id : String} {region : Region α}
    (found : network.findRegion? id = some region) : region ∈ network.regions :=
  List.mem_reverse.mp (List.mem_of_find?_eq_some found)

theorem regionFor_mem {network : Network α} {building : Building α σ} {point : Point α}
    {floor : Option Int} {region : Region α}
    (located : network.regionFor building point floor = .ok region) : region ∈ network.regions := by
  unfold regionFor at located
  split at located
  · rename_i found isFound
    cases located
    rcases Option.bind_eq_some_iff.mp isFound with ⟨room, -, named⟩
    exact findRegion?_mem named
  · cases located

/-- The hop that a route begins with. -/
def hopAlong (network : Network α) : List Int → Except (Fault α) (Hop α)
  | _ :: next :: _ => (network.regionAt next).map .region
  | _ => .error .outOfRange

omit [Scalar α] [Outline σ α] in
/-- A route that is found leads to a hop or to a region that is not there. -/
theorem hopAlong_ne_noRoute (network : Network α) (regions : List Int) (first second : Nat) :
    network.hopAlong regions ≠ .error (.noRoute first second) := by
  unfold hopAlong
  split
  · rename_i next rest
    cases found : network.regionAt next with
    | error fault =>
      rw [entryAt_error found]
      intro impossible
      cases impossible
    | ok region =>
      intro impossible
      cases impossible
  · intro impossible
    cases impossible

end Network

namespace Awareness

variable {awareness : Awareness α} {building : Building α σ} {agent : Agent α} {source : Region α}

/-- The next hop of an agent that is located. -/
theorem nextHop_eq (formed : awareness.network.WellFormed)
    (located : awareness.network.regionFor building agent.position agent.floor = .ok source)
    {goal : Nat} (inside : goal < awareness.network.size) :
    ∃ region : Region α, region.index = goal ∧ awareness.nextHop building agent goal =
      if source.index = goal then .ok (.point region.centre)
      else (awareness.route source.index goal).bind awareness.network.hopAlong := by
  rcases formed.region_of_lt inside with ⟨region, -, isIndex, isRegion, -⟩
  refine ⟨region, isIndex, ?_⟩
  simp only [nextHop, located, Network.indexOf_of_lt inside, isRegion, isIndex, bind, Except.bind]
  split
  · rfl
  · cases awareness.route source.index goal with
    | error fault => rfl
    | ok regions =>
      rcases regions with _ | ⟨first, _ | ⟨next, rest⟩⟩
      · rfl
      · rfl
      · simp only [Network.hopAlong]
        cases awareness.network.regionAt next with
        | error fault => rfl
        | ok region => rfl

/-- A next hop fails for want of a route only if there is no route. -/
theorem route_of_nextHop (formed : awareness.network.WellFormed)
    (located : awareness.network.regionFor building agent.position agent.floor = .ok source)
    {target : Int} {first second : Nat}
    (refused : awareness.nextHop building agent target = .error (.noRoute first second)) :
    ∃ goal : Nat, target = goal ∧ goal < awareness.network.size ∧
      awareness.route source.index goal = .error (.noRoute first second) := by
  cases isIndex : awareness.network.indexOf target with
  | error fault =>
    simp only [nextHop, located, isIndex, bind, Except.bind] at refused
    cases refused
    unfold Network.indexOf at isIndex
    split at isIndex
    · cases isIndex
    · cases isIndex
  | ok goal =>
    rcases Network.indexOf_eq_ok_iff.mp isIndex with ⟨rfl, inside⟩
    rcases nextHop_eq formed located inside with ⟨region, -, same⟩
    rw [same] at refused
    refine ⟨goal, rfl, inside, ?_⟩
    split at refused
    · cases refused
    · cases found : awareness.route source.index goal with
      | error fault =>
        rw [found] at refused
        cases refused
        rfl
      | ok regions =>
        rw [found] at refused
        exact absurd refused (Network.hopAlong_ne_noRoute _ regions first second)

/-- The next hop of an agent whose goal is within reach: a point in the goal, or the region behind
the first connection of a cheapest walk to the goal. -/
theorem Sound.nextHop_cases (sound : awareness.Sound) (laws : LawfulCosts awareness.Weights)
    (located : awareness.network.regionFor building agent.position agent.floor = .ok source)
    {goal : Nat} (inside : goal < awareness.network.size)
    (within : ¬ awareness.OutOfReach source.index goal) :
    (source.index = goal ∧ ∃ point, awareness.nextHop building agent goal = .ok (.point point)) ∨
    (source.index ≠ goal ∧ ∃ hop connection rest cost labels,
      awareness.nextHop building agent goal = .ok (.region hop) ∧
      connection.destination = some ↑hop.index ∧
      awareness.network.Walk awareness.Knows source.index (connection :: rest) goal ∧
      awareness.Knows hop.index ∧ hop.index ≠ source.index ∧
      awareness.total (connection :: rest) = .ok cost ∧
      awareness.Shortest source.index labels goal cost) := by
  rcases nextHop_eq sound.formed located inside with ⟨region, -, isHop⟩
  rw [isHop]
  by_cases same : source.index = goal
  · exact Or.inl ⟨same, region.centre, if_pos same⟩
  · refine Or.inr ⟨same, ?_⟩
    have sourceInside := sound.formed.region_lt_of_mem (Network.regionFor_mem located)
    have apart : (source.index : Int) ≠ goal := fun equal => same (Int.ofNat.inj equal)
    have reached := not_or.mp fun noWay => within ⟨apart, noWay⟩
    rcases not_not.mp reached.2 with ⟨walk, isWalk⟩
    rcases sound.route_of_walk laws sourceInside inside same (not_not.mp reached.1) isWalk with
      ⟨best, cost, found, isBest, summed, isRoute, labels, shortest⟩
    rcases best with _ | ⟨connection, rest⟩
    · exact absurd isBest.start_of_nil apart.symm
    · rcases isBest.uncons with ⟨-, -, member, next, isNext, -⟩
      have nextInside := sound.formed.destination_lt connection member next isNext
      rcases Int.eq_ofNat_of_zero_le nextInside.1 with ⟨index, rfl⟩
      rcases sound.formed.region_of_lt (show index < awareness.network.size by omega) with
        ⟨hop, -, rfl, -, isRegion⟩
      have passes : Network.passed source.index (connection :: rest) =
          (source.index : Int) :: Network.passed hop.index rest := Network.passed_cons isNext
      refine ⟨hop, connection, rest, cost, labels, ?_, isNext, isBest, ?_, ?_, summed, shortest⟩
      · rw [if_neg same, found, passes]
        simp only [Except.bind, Network.passed, Network.hopAlong, isRegion, Except.map]
      · refine isRoute.known apart _ ?_
        rw [passes]
        exact List.mem_cons_of_mem _ List.mem_cons_self
      · intro again
        have once := isRoute.distinct
        rw [passes, again] at once
        exact (List.nodup_cons.mp once).1 List.mem_cons_self

/-- A hop that is refused for want of a route leads to a goal out of reach. -/
theorem Sound.outOfReach_of_nextHop (sound : awareness.Sound)
    (laws : LawfulCosts awareness.Weights) {building : Building α σ} {agent : Agent α}
    {here : Region α}
    (located : awareness.network.regionFor building agent.position agent.floor = .ok here)
    {goal first second : Nat}
    (refused : awareness.nextHop building agent goal = .error (.noRoute first second)) :
    awareness.OutOfReach here.index goal := by
  have inside := sound.formed.region_lt_of_mem (Network.regionFor_mem located)
  rcases route_of_nextHop sound.formed located refused with
    ⟨target, isTarget, targetInside, noRoute⟩
  cases Int.ofNat.inj isTarget
  by_contra within
  rcases sound.route_within laws inside targetInside within with ⟨best, found, -⟩
  cases noRoute.symm.trans found

end Awareness

namespace Guidance

/-- What a target stands for depends on the network only. -/
theorem resolve_congr {before after : Guidance α} (same : after.network = before.network)
    (building : Building α σ) (floor : Option Int) (target : Target α σ) :
    after.resolve building floor target = before.resolve building floor target := by
  cases target with
  | region region => rfl
  | named id => simp only [resolve, same]
  | goal goal => simp only [resolve, same]
  | index reference => simp only [resolve, same]

/-- The next hop of a member whose target is found. -/
theorem nextHop_of_resolve {guidance : Guidance α} {building : Building α σ} {pid : Int}
    {member : Member α} (isMember : guidance.members.find? pid = some member)
    {target : Target α σ} {goal : Region α}
    (resolved : guidance.resolve building member.agent.floor target = .ok goal) (time : Value α) :
    (guidance.nextHop building pid target time).1 =
      member.awareness.nextHop building member.agent goal.index := by
  simp only [nextHop, member_eq_ok_iff.mpr isMember, resolved]
  cases member.awareness.nextHop building member.agent goal.index with
  | error fault => rfl
  | ok hop => rfl

/-- Whether a result is a refusal for want of a route. -/
def isRefusal {β : Type} : Except (Fault α) β → Bool
  | .error (.noRoute _ _) => true
  | _ => false

omit [Scalar α] in
theorem isRefusal_iff {β : Type} {result : Except (Fault α) β} :
    isRefusal result = true ↔ ∃ first second, result = .error (.noRoute first second) := by
  constructor
  · intro refused
    unfold isRefusal at refused
    split at refused
    · exact ⟨_, _, rfl⟩
    · cases refused
  · rintro ⟨first, second, rfl⟩
    rfl

end Guidance

end Egress
