import Egress.Proofs.Rectangle
import Egress.Proofs.Reach

/-!
# Expeditions

An agent that knows only the region in which it was registered, and no route to its target, goes on
an expedition: it moves to the first region of its frontier, and again, until there is a route.
Every such move discovers a region, so there are fewer moves than regions.

The frontier does not run out before.  Where connections lead both ways, one can walk back from
every discovered region, and so to wherever a walk led from the first; a walk to the target that
cannot be taken crosses the frontier.  What happens between two moves does not matter: steps of the
simulation, calls for other agents, other conditions and factors of any kind leave the agent where
it stands, and it neither forgets nor discovers a region.
-/

namespace Egress

variable {α σ : Type}

/-- There is a way back along every live connection. -/
def Network.Reversible (network : Network α) : Prop :=
  ∀ connection ∈ network.connections, ∀ target, connection.destination = some target →
    ∃ back ∈ network.connections,
      (back.source : Int) = target ∧ back.destination = some ↑connection.source

namespace Guidance

variable [Scalar α] [Outline σ α]

/-- A member whose tariff holds other factors. -/
def repriced (member : Member α) (factors : Table Nat (Table String α)) : Member α :=
  { member with awareness :=
    { member.awareness with tariff := { member.awareness.tariff with factors } } }

/-- What may happen between two moves of an agent: steps under any conditions, calls for other
agents, and factors of any kind in any tariff. -/
inductive Meanwhile (building : Building α σ) (pid : Int) (guidance : Guidance α) :
    Guidance α → Prop
  | step (conditions : Nat → Conditions α) (time : Value α) :
      Meanwhile building pid guidance (guidance.step ⟨building, conditions⟩ time).1
  | add {after : Guidance α} (conditions : Nat → Conditions α) (agent : Agent α)
      (complete : Option Bool) :
      guidance.addAgent ⟨building, conditions⟩ agent complete = .ok after →
      Meanwhile building pid guidance after
  | remove {other : Int} {agent : Agent α} {after : Guidance α} : other ≠ pid →
      guidance.removeAgent other = .ok (agent, after) → Meanwhile building pid guidance after
  | move (conditions : Nat → Conditions α) {other : Int} (position : Point α)
      (floor : Option Int) : other ≠ pid →
      Meanwhile building pid guidance (guidance.move ⟨building, conditions⟩ other position floor).1
  | reprice {other : Int} {member : Member α} (factors : Table Nat (Table String α)) :
      guidance.members.find? other = some member →
      Meanwhile building pid guidance (guidance.setMember other (repriced member factors))

/-- The states of an expedition, with the number of moves made so far.  The agent moves when it was
refused a route, and moves to a point in the first region of its frontier. -/
inductive Expedition (building : Building α σ) (pid : Int) (target : Target α σ)
    (started : Guidance α) : Nat → Guidance α → Prop
  | start : Expedition building pid target started 0 started
  | meanwhile {count : Nat} {guidance after : Guidance α} :
      Expedition building pid target started count guidance →
      Meanwhile building pid guidance after →
      Expedition building pid target started count after
  | explore {count : Nat} {guidance : Guidance α} {member : Member α} {time : Value α}
      {source goal : Nat} {nearest region : Region α} {others : List (Region α)}
      (conditions : Nat → Conditions α) (position : Point α) (floor : Option Int) :
      Expedition building pid target started count guidance →
      (guidance.nextHop building pid target time).1 = .error (.noRoute source goal) →
      guidance.frontier pid = .ok (nearest :: others) →
      guidance.members.find? pid = some member →
      guidance.network.regionFor building position (floor <|> member.agent.floor) = .ok region →
      region.index = nearest.index →
      Expedition building pid target started (count + 1)
        (guidance.move ⟨building, conditions⟩ pid position floor).1

variable {building : Building α σ} {initial guidance after : Guidance α} {pid : Int}
  {member : Member α}

/-! ## Between two moves -/

/-- Whatever happens in between, an agent stays where it is, and its awareness grows without a
discovery. -/
theorem Meanwhile.keeps (happened : Meanwhile building pid guidance after)
    (isMember : guidance.members.find? pid = some member)
    (placed : initial.Placed building member) :
    guidance.SameFrame after ∧ ∃ awareness,
      after.members.find? pid = some { member with awareness } ∧
      member.awareness.Grows awareness ∧
      awareness.discovered = member.awareness.discovered := by
  have unchanged : ∀ {now : Guidance α}, now.members.find? pid = some member →
      ∃ awareness, now.members.find? pid = some { member with awareness } ∧
        member.awareness.Grows awareness ∧
        awareness.discovered = member.awareness.discovered :=
    fun found => ⟨member.awareness, found, .refl _, rfl⟩
  cases happened with
  | step conditions time =>
    refine ⟨guidance.step_frame _ time, ?_⟩
    rcases guidance.step_find? ⟨building, conditions⟩ time pid with same | ⟨before, found, ran⟩
    · exact unchanged (same.trans isMember)
    · cases found.symm.trans isMember
      rcases placed.grown with ⟨complete, grown⟩
      rcases placed.located with ⟨region, located, -, isKnown⟩
      refine ⟨_, ran, guidance.suite.run_grows _ _ _, ?_⟩
      exact guidance.suite.run_discovered (grown.network ▸ located) isKnown
  | add conditions agent complete added =>
    rcases addAgent_cases added with ⟨region, awareness, fresh, bound, flags, -, -, isNew, rfl⟩
    refine ⟨⟨rfl, rfl, rfl, rfl⟩, unchanged ?_⟩
    have different : agent.pid ≠ pid := by
      rintro rfl
      cases isNew.symm.trans isMember
    rw [find?_setMember, if_neg different, isMember]
  | remove different removed =>
    rcases bind_eq_ok.mp removed with ⟨gone, -, same⟩
    cases same
    refine ⟨⟨rfl, rfl, rfl, rfl⟩, unchanged ?_⟩
    rw [Table.find?_erase, if_neg different, isMember]
  | @move conditions other position floor different =>
    rcases move_cases guidance ⟨building, conditions⟩ other position floor with same |
      ⟨mover, region, entered, flags, -, -, -, moved⟩
    · rw [same]
      exact ⟨.refl guidance, unchanged isMember⟩
    · rw [moved]
      refine ⟨⟨rfl, rfl, rfl, rfl⟩, unchanged ?_⟩
      rw [find?_setMember, if_neg different, isMember]
  | @reprice other owner factors isOwner =>
    refine ⟨⟨rfl, rfl, rfl, rfl⟩, ?_⟩
    rw [find?_setMember]
    by_cases same : other = pid
    · subst same
      cases isOwner.symm.trans isMember
      rw [if_pos rfl]
      exact ⟨_, rfl, ⟨rfl, rfl, fun _ isKnown => isKnown, rfl, rfl, rfl⟩, rfl⟩
    · rw [if_neg same]
      exact unchanged isMember

/-! ## One move -/

/-- An agent on an expedition.  It has discovered one region with every move, in addition to the
one that it started from, and from each of them a walk leads wherever one led from the start. -/
structure Explores (building : Building α σ) (initial : Guidance α) (start : Int) (count : Nat)
    (member : Member α) : Prop where
  placed : initial.Placed building member
  incomplete : member.awareness.complete = false
  distinct : member.awareness.discovered.Nodup
  counted : member.awareness.discovered.length = count + 1
  inside : ∀ region ∈ member.awareness.discovered, region < initial.network.size
  leads : ∀ region ∈ member.awareness.discovered, ∀ walk goal,
    initial.network.Walk (fun _ => True) start walk goal →
      ∃ onward, initial.network.Walk (fun _ => True) region onward goal

variable {start : Int} {count : Nat}

/-- An agent with partial knowledge knows what it discovered. -/
theorem Explores.knows_iff (explores : Explores building initial start count member)
    {region : Nat} : member.awareness.Knows region ↔ region ∈ member.awareness.discovered := by
  rw [Awareness.knows_natCast_iff, explores.incomplete]
  exact or_iff_right Bool.false_ne_true

/-- An expedition is not affected by growth without a discovery. -/
theorem Explores.grow (explores : Explores building initial start count member)
    {awareness : Awareness α} (grows : member.awareness.Grows awareness)
    (same : awareness.discovered = member.awareness.discovered) :
    Explores building initial start count { member with awareness } where
  placed := explores.placed.grow grows
  incomplete := grows.complete.trans explores.incomplete
  distinct := same ▸ explores.distinct
  counted := same ▸ explores.counted
  inside := same ▸ explores.inside
  leads := same ▸ explores.leads

/-- A move to a region that is not known discovers it, and nothing else. -/
theorem move_discovers (formed : initial.network.WellFormed) (world : World α σ)
    (placed : initial.Placed world.building member) (frame : initial.SameFrame guidance)
    (isMember : guidance.members.find? pid = some member) {position : Point α}
    {floor : Option Int} {region : Region α}
    (located : guidance.network.regionFor world.building position (floor <|> member.agent.floor) =
      .ok region)
    (unknown : ¬ member.awareness.Knows region.index) :
    guidance.SameFrame (guidance.move world pid position floor).1 ∧
    ∃ now, (guidance.move world pid position floor).1.members.find? pid = some now ∧
      now.awareness = { member.awareness with
        discovered := member.awareness.discovered ++ [region.index] } ∧
      initial.Placed world.building now := by
  rcases placed.grown with ⟨complete, grown⟩
  rcases placed.located with ⟨here, -, isHere, hereKnown⟩
  have locatedInitially := frame.1 ▸ located
  have inside := formed.region_lt_of_mem (Network.regionFor_mem locatedInitially)
  have different : (here.index : Int) ≠ region.index := fun same => unknown (same ▸ hereKnown)
  have stillInside : region.index < ({ member with agent :=
      { member.agent with position, floor := floor <|> member.agent.floor } } :
        Member α).awareness.network.size := grown.network ▸ inside
  have entered := enter_of_unknown stillInside unknown isHere different
  rcases move_of_enter isMember located entered with ⟨flags, moved⟩
  rw [moved]
  refine ⟨⟨rfl, rfl, rfl, rfl⟩, _, (find?_setMember ..).trans (if_pos rfl), rfl, ?_⟩
  exact placed.enter locatedInitially entered flags

/-- The region discovered by a move counts, and leads back to where its connection comes from. -/
theorem Explores.discover (reversible : initial.network.Reversible)
    (explores : Explores building initial start count member) {region : Nat}
    (isFrontier : ↑region ∈ member.awareness.frontierIndices)
    (inside : region < initial.network.size) {now : Member α}
    (placed : initial.Placed building now)
    (found : now.awareness = { member.awareness with
      discovered := member.awareness.discovered ++ [region] }) :
    Explores building initial start (count + 1) now := by
  rcases explores.placed.grown with ⟨complete, grown⟩
  rcases Awareness.mem_frontierIndices.mp isFrontier with
    ⟨unknown, connection, isConnection, sourceKnown, isEnd⟩
  have isSource := explores.knows_iff.mp sourceKnown
  have isNew := mt explores.knows_iff.mpr unknown
  rw [grown.network] at isConnection
  rcases reversible connection isConnection region isEnd with ⟨back, isBack, fromHere, backEnd⟩
  -- back along the connection that was crossed, and on from where it comes from
  have leadsOn : ∀ walk goal, initial.network.Walk (fun _ => True) start walk goal →
      ∃ onward, initial.network.Walk (fun _ => True) region onward goal := by
    intro walk goal isWalk
    rcases explores.leads connection.source isSource walk goal isWalk with ⟨onward, isOnward⟩
    exact ⟨back :: onward, fromHere ▸ isOnward.cons trivial isBack backEnd⟩
  refine ⟨placed, ?_, ?_, ?_, ?_, ?_⟩
  all_goals rw [found]
  · exact explores.incomplete
  · exact List.concat_eq_append ▸ explores.distinct.concat isNew
  · rw [List.length_append, explores.counted, List.length_singleton]
  · intro other isOther
    rcases List.mem_append.mp isOther with before | isLast
    · exact explores.inside other before
    · exact List.mem_singleton.mp isLast ▸ inside
  · intro other isOther
    rcases List.mem_append.mp isOther with before | isLast
    · exact explores.leads other before
    · exact List.mem_singleton.mp isLast ▸ leadsOn

/-- The first region of a frontier is on the frontier. -/
theorem Explores.nearest (weighable : initial.network.Weighable initial.settings)
    (explores : Explores building initial start count member)
    (isMember : guidance.members.find? pid = some member) {nearest : Region α}
    {others : List (Region α)} (ranked : guidance.frontier pid = .ok (nearest :: others)) :
    ↑nearest.index ∈ member.awareness.frontierIndices := by
  rcases explores.placed.grown with ⟨complete, grown⟩
  rcases explores.placed.located with ⟨here, located, isHere, -⟩
  have inside := weighable.formed.region_lt_of_mem (Network.regionFor_mem located)
  rcases frontier_ranked (Awareness.weighed_of_grows weighable grown) isMember isHere
    (grown.network ▸ inside) with ⟨regions, isRanked, isFrontier⟩
  cases isRanked.symm.trans ranked
  exact (isFrontier _).mpr ⟨nearest, List.mem_cons_self, rfl⟩

/-! ## Whole expeditions -/

/-- All along an expedition the agent explores. -/
theorem Expedition.explores {started later : Guidance α} {target : Target α σ}
    (weighable : initial.network.Weighable initial.settings)
    (reversible : initial.network.Reversible)
    (expedition : Expedition building pid target started count later)
    (frame : initial.SameFrame started)
    (setsOut : ∃ member, started.members.find? pid = some member ∧
      Explores building initial start 0 member) :
    initial.SameFrame later ∧ ∃ member, later.members.find? pid = some member ∧
      Explores building initial start count member := by
  induction expedition with
  | start => exact ⟨frame, setsOut⟩
  | meanwhile _ happened hypothesis =>
    rcases hypothesis with ⟨before, member, isMember, explores⟩
    rcases happened.keeps isMember explores.placed with ⟨after, awareness, found, grows, same⟩
    exact ⟨before.trans after, _, found, explores.grow grows same⟩
  | explore conditions position floor _ _ ranked isMember located same hypothesis =>
    rcases hypothesis with ⟨before, other, isOther, explores⟩
    cases isOther.symm.trans isMember
    have isFrontier := explores.nearest weighable isMember ranked
    rw [← same] at isFrontier
    have unknown := (Awareness.mem_frontierIndices.mp isFrontier).1
    have inside := weighable.formed.region_lt_of_mem
      (Network.regionFor_mem (before.1 ▸ located))
    rcases move_discovers weighable.formed ⟨building, conditions⟩ explores.placed before isMember
        located unknown with ⟨after, now, isNow, discovered, placed⟩
    exact ⟨before.trans after, now, isNow,
      explores.discover reversible isFrontier inside placed discovered⟩

end Guidance

end Egress
