import Mathlib.Data.List.Destutter
import Egress.Proofs.History
import Egress.Proofs.Members
import Egress.Proofs.Numerals

/-!
# Itineraries

The calls that locate an agent find one region after another.  With repetitions collapsed, this is
the agent's itinerary, and two things are read off from it.  What an agent knows, if it came without
knowledge, are the regions of its itinerary in the order of their first visits; sensors add nothing,
because they discover only the region in which the agent stands.  And its history, as far as it is
bounded, is the one it came with followed by the itinerary without its end, which the agent has not
left yet.

A move counts if it finds a region.  It may still fail after that, namely if there are conditions to
be exposed to and they do not know the region; then the agent has moved all the same.
-/

namespace Egress

/-! ## Collapsed repetitions -/

section Repetitions

variable {β : Type} [DecidableEq β]

/-- A route that goes on to a place, unless it ends there. -/
def onward (route : List β) (place : β) : List β :=
  if route.getLast? = some place then route else route ++ [place]

theorem destutter'_concat (first last : β) (entries : List β) :
    (entries ++ [last]).destutter' (· ≠ ·) first =
      onward (entries.destutter' (· ≠ ·) first) last := by
  unfold onward
  induction entries generalizing first with
  | nil =>
    by_cases same : first = last
    · simp [same]
    · simp [same]
  | cons entry rest hypothesis =>
    by_cases same : first = entry
    · subst same
      simpa using hypothesis first
    · have kept := List.destutter'_ne_nil rest (R := (· ≠ ·)) (a := entry)
      rw [List.cons_append, List.destutter'_cons_pos _ same, List.destutter'_cons_pos _ same,
        hypothesis, List.getLast?_cons_of_ne_nil kept]
      split
      · rfl
      · rfl

/-- With one entry more, a sequence without repetitions goes on there. -/
theorem destutter_concat (entries : List β) (last : β) :
    (entries ++ [last]).destutter (· ≠ ·) = onward (entries.destutter (· ≠ ·)) last := by
  cases entries with
  | nil => rfl
  | cons first rest => exact destutter'_concat first last rest

end Repetitions

/-- An integral setting counts as its integer among numbers. -/
theorem Value.number?_of_integer {α : Type} [Scalar α] {value : Value α} {count : Int}
    (isCount : value.integer? = some count) : value.number? = some (Scalar.ofInt count) := by
  cases value with
  | bool value =>
    cases isCount
    rfl
  | int value =>
    cases isCount
    rfl
  | _ => cases isCount

namespace Guidance

variable {α σ : Type} [Scalar α] {network : Network α} {bound : Nat} {past : List Int}
  {route : List Nat} {member : Member α}

/-- At least one region is remembered, and otherwise as many as the settings say. -/
theorem historyBound_eq [LawfulNumerals α] {settings : Settings α} {count : Int}
    (isCount : (settings.value .memory).integer? = some count)
    (isBound : historyBound settings = .ok bound) : bound = (max 1 count).toNat := by
  unfold historyBound at isBound
  rw [Value.number?_of_integer isCount, isCount] at isBound
  dsimp only at isBound
  split at isBound
  · rename_i above
    have several := (LawfulNumerals.one_lt_ofInt_iff count).mp above
    split at isBound
    · cases isBound
      rw [max_eq_right several.le]
    · cases isBound
  · rename_i notAbove
    have few := mt (LawfulNumerals.one_lt_ofInt_iff (α := α) count).mpr notAbove
    cases isBound
    rw [max_eq_left (by omega)]
    rfl

variable [Outline σ α]

/-- A move to a position in no region fails and changes nothing. -/
theorem move_of_lost {guidance : Guidance α} {world : World α σ} {pid : Int}
    (isMember : guidance.members.find? pid = some member)
    {position : Point α} {floor : Option Int} {fault : Fault α}
    (lost : guidance.network.regionFor world.building position (floor <|> member.agent.floor) =
      .error fault) :
    guidance.move world pid position floor = (guidance, .error fault) := by
  simp only [Guidance.move, member_eq_ok_iff.mpr isMember, lost]

/-- A member that came without knowledge has travelled a route: it stands at the end of it, knows
the regions on it and remembers the last of those that it left. -/
structure Travelled (network : Network α) (building : Building α σ) (bound : Nat) (past : List Int)
    (route : List Nat) (member : Member α) : Prop where
  sees : member.awareness.network = network
  learns : member.awareness.complete = false
  inside : ∀ index ∈ route, index < network.size
  located : ∃ region,
    network.regionFor building member.agent.position member.agent.floor = .ok region ∧
      member.agent.region = some ↑region.index ∧ route.getLast? = some region.index
  discovered : member.awareness.discovered = route.eraseDups
  bounded : member.agent.bound = some bound
  history : member.agent.history =
    Agent.recent (some bound) (past ++ route.dropLast.map Int.ofNat)

namespace Travelled

variable {building : Building α σ}

theorem knows_iff (travelled : Travelled network building bound past route member) {index : Nat} :
    member.awareness.Knows index ↔ index ∈ route := by
  rw [Awareness.knows_natCast_iff, travelled.learns, travelled.discovered, List.mem_eraseDups]
  simp only [Bool.false_eq_true, false_or]

/-- The known regions are those of the route, in the order of their first visits. -/
theorem knownRegions (travelled : Travelled network building bound past route member)
    (numbered : network.Numbered) :
    ∃ known, member.awareness.knownRegions = .ok known ∧
      known.map Region.index = route.eraseDups := by
  have inside : ∀ index ∈ member.awareness.discovered, index < member.awareness.network.size := by
    intro index visited
    rw [travelled.discovered, List.mem_eraseDups] at visited
    exact travelled.sees ▸ travelled.inside index visited
  rcases Awareness.knownRegions_of_lt (travelled.sees ▸ numbered) travelled.learns inside with
    ⟨known, isKnown, -, indices⟩
  exact ⟨known, isKnown, indices.trans travelled.discovered⟩

/-- Running a suite keeps a member on its route. -/
theorem ran (travelled : Travelled network building bound past route member) (suite : Suite α)
    {world : World α σ} (same : world.building = building) :
    Travelled network building bound past route (Guidance.ran suite world member) := by
  have grows := suite.run_grows world member.agent member.awareness
  rcases travelled.located with ⟨region, located, isRegion, isLast⟩
  have isKnown := travelled.knows_iff.mpr (List.mem_of_getLast? isLast)
  have discovered := suite.run_discovered (same.symm ▸ travelled.sees.symm ▸ located) isKnown
  exact {
    sees := grows.network.trans travelled.sees
    learns := grows.complete.trans travelled.learns
    inside := travelled.inside
    located := ⟨region, located, isRegion, isLast⟩
    discovered := discovered.trans travelled.discovered
    bounded := travelled.bounded
    history := travelled.history }

/-- Entering the region of a position goes on to it. -/
theorem enter (travelled : Travelled network building bound past route member)
    (numbered : network.Numbered) {position : Point α} {floor : Option Int} {region : Region α}
    (located : network.regionFor building position floor = .ok region) :
    ∃ entered,
      Guidance.enter { member with agent := { member.agent with position, floor } } region =
        .ok entered ∧
      ∀ flags, Travelled network building bound past (onward route region.index)
        { entered with agent := { entered.agent with flags } } := by
  have isInside := numbered.region_lt_of_mem (Network.regionFor_mem located)
  rcases travelled.located with ⟨here, -, isHere, isLast⟩
  by_cases same : here.index = region.index
  · have stays : onward route region.index = route := if_pos (same ▸ isLast)
    refine ⟨_, if_pos (same ▸ isHere), fun flags => ?_⟩
    rw [stays]
    exact {
      sees := travelled.sees
      learns := travelled.learns
      inside := travelled.inside
      located := ⟨region, located, same ▸ isHere, same ▸ isLast⟩
      discovered := travelled.discovered
      bounded := travelled.bounded
      history := travelled.history }
  · have goes : onward route region.index = route ++ [region.index] :=
      if_neg fun again => same (Option.some.inj (isLast.symm.trans again))
    have different : (here.index : Int) ≠ region.index := fun again => same (Int.ofNat.inj again)
    rcases Awareness.discover_of_lt (travelled.sees ▸ isInside) with ⟨awareness, fresh, discovered⟩
    have discovers : ({ member with agent := { member.agent with position, floor } } :
        Member α).awareness.discover region.index = .ok (awareness, fresh) := discovered
    refine ⟨_, enter_of_discover discovers isHere different, fun flags => ?_⟩
    rw [goes]
    have grows := (Awareness.grows_of_discover discovered).1
    have regions : awareness.discovered = (route ++ [region.index]).eraseDups := by
      rw [eraseDups_concat]
      rcases Awareness.discover_cases discovered with ⟨isKnown, rfl⟩ |
        ⟨unknown, index, isIndex, rfl⟩
      · rw [if_pos (travelled.knows_iff.mp isKnown), travelled.discovered]
      · cases Int.ofNat.inj isIndex
        rw [if_neg (mt travelled.knows_iff.mpr unknown), ← travelled.discovered]
    have remembered : Agent.recent member.agent.bound
        (member.agent.history ++ [(here.index : Int)]) =
          Agent.recent (some bound) (past ++ route.map Int.ofNat) := by
      have whole : route.dropLast.map Int.ofNat ++ [(here.index : Int)] = route.map Int.ofNat := by
        rw [← List.dropLast_append_getLast? _ isLast, List.map_append, List.dropLast_concat]
        rfl
      rw [travelled.bounded, travelled.history, Agent.recent_recent_append, List.append_assoc,
        whole]
    refine ⟨grows.network.trans travelled.sees, grows.complete.trans travelled.learns, ?_,
      ⟨region, located, rfl, List.getLast?_concat⟩, regions, travelled.bounded, ?_⟩
    · intro index isStop
      rcases List.mem_append.mp isStop with before | isNew
      · exact travelled.inside index before
      · exact List.mem_singleton.mp isNew ▸ isInside
    · rw [List.dropLast_concat]
      exact remembered

/-- A registered member that moves to a position in a region goes on to it.  The move succeeds if
the conditions know the region. -/
theorem move {guidance : Guidance α} {world : World α σ} {pid : Int}
    (travelled : Travelled guidance.network world.building bound past route member)
    (numbered : guidance.network.Numbered) (isMember : guidance.members.find? pid = some member)
    {position : Point α} {floor : Option Int} {region : Region α}
    (located : guidance.network.regionFor world.building position (floor <|> member.agent.floor) =
      .ok region) :
    (∃ after, (guidance.move world pid position floor).1.members.find? pid = some after ∧
      Travelled guidance.network world.building bound past (onward route region.index) after) ∧
    ((∀ number, guidance.field = some number →
        region.index < (world.conditions number).network.size) →
      (guidance.move world pid position floor).2 = .ok region) := by
  rcases travelled.enter numbered located with ⟨entered, done, onwards⟩
  rcases move_of_enter isMember located done with ⟨flags, moved⟩
  refine ⟨⟨_, ?_, onwards flags⟩, fun known => ?_⟩
  · rw [moved, find?_setMember, if_pos rfl]
  · rcases exists_expose_of_lt known entered.agent with ⟨exposed, isExposed⟩
    simp only [Guidance.move, member_eq_ok_iff.mpr isMember, located, done, isExposed]

end Travelled

end Guidance

namespace Scene

variable {α σ γ : Type} [Scalar α] [Outline σ α] [RandomSource γ α]

/-- The region that a call finds for an agent: the one in which it is registered, or the one to
which a registered agent moves, whether or not the move succeeds after that. -/
def found? (pid : Int) (event : Event α σ γ) : Option Nat :=
  let located := event.1.guidance.network.regionFor event.1.world.building
  let regionOf := fun position floor => (located position floor).toOption.map Region.index
  match event.2 with
  | .add agent _ =>
    if agent.pid = pid ∧ (event.1.perform event.2).2.isNone then
      regionOf agent.position agent.floor
    else none
  | .move other position floor =>
    if other = pid then
      (event.1.guidance.members.find? pid).bind fun member =>
        regionOf position (floor <|> member.agent.floor)
    else none
  | _ => none

/-- The regions that calls find for an agent, with repetitions collapsed. -/
def itinerary (scene : Scene α σ γ) (pid : Int) (calls : List (Call α σ γ)) : List Nat :=
  ((scene.events calls).filterMap (found? pid)).destutter (· ≠ ·)

theorem itinerary_append_singleton (scene : Scene α σ γ) (pid : Int) (calls : List (Call α σ γ))
    (call : Call α σ γ) :
    scene.itinerary pid (calls ++ [call]) =
      (found? pid (scene.run calls, call)).elim (scene.itinerary pid calls)
        (onward (scene.itinerary pid calls)) := by
  unfold itinerary
  rw [events_append_singleton, List.filterMap_append]
  cases isFound : found? pid (scene.run calls, call) with
  | none => rw [List.filterMap_cons_none isFound, List.filterMap_nil, List.append_nil, Option.elim]
  | some index =>
    rw [List.filterMap_cons_some isFound, List.filterMap_nil, destutter_concat, Option.elim]

/-- A member has travelled a route through the network of a scene. -/
abbrev Travelled (scene : Scene α σ γ) (bound : Nat) (past : List Int) (route : List Nat)
    (member : Member α) : Prop :=
  Guidance.Travelled scene.guidance.network scene.world.building bound past route member

variable {scene : Scene α σ γ} {call : Call α σ γ} {pid : Int} {bound : Nat} {past : List Int}
  {route : List Nat} {member : Member α}

omit [RandomSource γ α] in
/-- Calls change neither the network nor the building in which routes are travelled. -/
theorem Follows.travelled_iff {start : Scene α σ γ} (follows : start.Follows scene) :
    scene.Travelled bound past route member ↔ start.Travelled bound past route member := by
  have building : scene.world.building = start.world.building := follows.building
  rw [Travelled, Travelled, follows.reachable.frame.1, building]

/-- A move of a registered agent finds the region of the position. -/
theorem found?_move (isMember : scene.guidance.members.find? pid = some member)
    (position : Point α) (floor : Option Int) :
    found? pid (scene, .move pid position floor) =
      (scene.guidance.network.regionFor scene.world.building position
        (floor <|> member.agent.floor)).toOption.map Region.index := by
  simp only [found?, if_true, isMember, Option.bind_some]

/-- A move that succeeds finds the region that it returns. -/
theorem found?_of_move {position : Point α} {floor : Option Int} {region : Region α}
    (moved : (scene.guidance.move scene.world pid position floor).2 = .ok region) :
    found? pid (scene, .move pid position floor) = some region.index := by
  unfold Guidance.move at moved
  split at moved
  · cases moved
  · rename_i member isMember
    rw [found?_move (Guidance.member_eq_ok_iff.mp isMember)]
    split at moved
    · cases moved
    · rename_i found located
      dsimp only at moved
      split at moved
      · cases moved
      · split at moved
        · cases moved
        · cases moved
          exact congrArg (fun result => result.toOption.map Region.index) located

omit [Scalar α] [Outline σ α] [RandomSource γ α] in
/-- A call on an outbreak leaves the guidance alone. -/
theorem guidance_attempt {field : Nat} (made : Except (Fault α) (Outbreak α γ)) :
    (scene.attempt (made.bind fun outbreak => .ok (scene.withField field outbreak))).1.guidance =
      scene.guidance := by
  cases made <;> rfl

/-- A registered agent is not found by a call that is to register it again. -/
theorem found?_add_of_member (isMember : scene.guidance.members.find? pid = some member)
    (agent : Agent α) (complete : Option Bool) :
    found? pid (scene, .add agent complete) = none ∧
      (scene.perform (.add agent complete)).1.guidance.members.find? pid = some member := by
  cases added : scene.guidance.addAgent scene.world agent complete with
  | error fault =>
    have failed : scene.perform (.add agent complete) = (scene, some fault) := by
      rw [perform, added]
      rfl
    refine ⟨if_neg ?_, by rw [failed, isMember]⟩
    rw [failed]
    exact fun both => Bool.false_ne_true both.2
  | ok guidance =>
    rcases Guidance.addAgent_cases added with ⟨_, _, _, _, _, -, -, isNew, rfl⟩
    have different : agent.pid ≠ pid := by
      rintro rfl
      cases isNew.symm.trans isMember
    refine ⟨if_neg fun both => different both.1, ?_⟩
    rw [perform, added]
    exact (Guidance.find?_setMember _ _ _ _).trans ((if_neg different).trans isMember)

/-- A call that removes another agent leaves a member as it was. -/
theorem find?_remove_of_ne {other : Int} (different : other ≠ pid) :
    (scene.perform (.remove other)).1.guidance.members.find? pid =
      scene.guidance.members.find? pid := by
  cases removed : scene.guidance.removeAgent other with
  | error fault =>
    rw [perform, removed]
    rfl
  | ok result =>
    rcases result with ⟨agent, guidance⟩
    rcases bind_eq_ok.mp removed with ⟨gone, -, same⟩
    cases same
    rw [perform, removed]
    exact (Table.find?_erase _ _ _).trans (if_neg different)

/-- A move of another agent finds no region for a member and leaves it as it was. -/
theorem find?_move_of_ne (scene : Scene α σ γ) {other : Int} (different : other ≠ pid)
    (position : Point α) (floor : Option Int) :
    found? pid (scene, .move other position floor) = none ∧
      (scene.perform (.move other position floor)).1.guidance.members.find? pid =
        scene.guidance.members.find? pid := by
  refine ⟨if_neg different, ?_⟩
  change (scene.guidance.move scene.world other position floor).1.members.find? pid = _
  rcases Guidance.move_cases scene.guidance scene.world other position floor with same |
    ⟨_, _, _, _, -, -, -, moved⟩
  · rw [same]
  · rw [moved, Guidance.find?_setMember, if_neg different]

/-- A move of a member that has travelled a route finds no region and changes nothing, or goes on to
the region that it finds. -/
theorem move_travelled (numbered : scene.guidance.network.Numbered)
    (isMember : scene.guidance.members.find? pid = some member)
    (travelled : scene.Travelled bound past route member)
    (position : Point α) (floor : Option Int) :
    (found? pid (scene, .move pid position floor) = none ∧
      (scene.perform (.move pid position floor)).1.guidance.members.find? pid = some member) ∨
    ∃ index after, found? pid (scene, .move pid position floor) = some index ∧
      (scene.perform (.move pid position floor)).1.guidance.members.find? pid = some after ∧
      scene.Travelled bound past (onward route index) after := by
  rw [found?_move isMember]
  cases located : scene.guidance.network.regionFor scene.world.building position
      (floor <|> member.agent.floor) with
  | error fault =>
    refine Or.inl ⟨rfl, ?_⟩
    rw [perform, Guidance.move_of_lost isMember located]
    exact isMember
  | ok region =>
    rcases (travelled.move numbered isMember located).1 with ⟨after, isAfter, goesOn⟩
    exact Or.inr ⟨region.index, after, rfl, isAfter, goesOn⟩

/-- Where the conditions know all regions, a move of a member finds the region that it returns. -/
theorem found?_eq_of_known (numbered : scene.guidance.network.Numbered)
    (isMember : scene.guidance.members.find? pid = some member)
    (travelled : scene.Travelled bound past route member)
    (known : ∀ number, scene.guidance.field = some number →
      scene.guidance.network.size ≤ (scene.fields number).conditions.network.size)
    (position : Point α) (floor : Option Int) :
    found? pid (scene, .move pid position floor) =
      (scene.guidance.move scene.world pid position floor).2.toOption.map Region.index := by
  cases moved : (scene.guidance.move scene.world pid position floor).2 with
  | ok region => exact found?_of_move moved
  | error fault =>
    rw [found?_move isMember]
    cases located : scene.guidance.network.regionFor scene.world.building position
        (floor <|> member.agent.floor) with
    | error lost => rfl
    | ok region =>
      have inside := numbered.region_lt_of_mem (Network.regionFor_mem located)
      have succeeds := (travelled.move numbered isMember located).2 fun number isField =>
        inside.trans_le (known number isField)
      cases moved.symm.trans succeeds

/-- A member that has travelled a route goes on to what a call finds for it. -/
theorem travelled_perform (numbered : scene.guidance.network.Numbered)
    (isMember : scene.guidance.members.find? pid = some member)
    (travelled : scene.Travelled bound past route member)
    (stays : call ≠ .remove pid) :
    ∃ after, (scene.perform call).1.guidance.members.find? pid = some after ∧
      scene.Travelled bound past
        ((found? pid (scene, call)).elim route (onward route)) after := by
  have idle : found? pid (scene, call) = none →
      (scene.perform call).1.guidance.members.find? pid = scene.guidance.members.find? pid →
      ∃ after, (scene.perform call).1.guidance.members.find? pid = some after ∧
        scene.Travelled bound past
          ((found? pid (scene, call)).elim route (onward route)) after := by
    intro nothing same
    rw [nothing, same]
    exact ⟨member, isMember, travelled⟩
  have alone : (scene.perform call).1.guidance = scene.guidance →
      (scene.perform call).1.guidance.members.find? pid = scene.guidance.members.find? pid :=
    congrArg fun guidance : Guidance α => guidance.members.find? pid
  cases call with
  | add agent complete =>
    rcases found?_add_of_member isMember agent complete with ⟨nothing, still⟩
    exact idle nothing (still.trans isMember.symm)
  | remove other => exact idle rfl (find?_remove_of_ne fun own => stays (own ▸ rfl))
  | move other position floor =>
    by_cases own : other = pid
    · subst own
      rcases move_travelled numbered isMember travelled position floor with ⟨nothing, still⟩ |
        ⟨index, after, isFound, isAfter, goesOn⟩
      · exact idle nothing (still.trans isMember.symm)
      · rw [isFound]
        exact ⟨after, isAfter, goesOn⟩
    · rcases find?_move_of_ne scene own position floor with ⟨nothing, same⟩
      exact idle nothing same
  | step time =>
    rcases scene.guidance.step_find? scene.world time pid with same | ⟨before, isBefore, ran⟩
    · exact idle rfl same
    · cases isMember.symm.trans isBefore
      exact ⟨_, ran, travelled.ran _ rfl⟩
  | ignite field reference density => exact idle rfl (alone (guidance_attempt _))
  | block field reference => exact idle rfl (alone (guidance_attempt _))
  | unblock field reference => exact idle rfl (alone (guidance_attempt _))
  | nextHop _ _ _ | frontier _ | spread _ | reset _ | reseed _ _ => exact idle rfl rfl

/-- An agent that was registered without knowledge has begun a route where it stands. -/
theorem travelled_add {agent : Agent α} {complete : Option Bool}
    (numbered : scene.guidance.network.Numbered)
    (partly : complete.getD (scene.guidance.settings.value .fullKnowledge).truthy = false)
    (added : (scene.perform (.add agent complete)).2 = none) :
    ∃ index bound member, found? agent.pid (scene, .add agent complete) = some index ∧
      Guidance.historyBound scene.guidance.settings = .ok bound ∧
      (scene.perform (.add agent complete)).1.guidance.members.find? agent.pid = some member ∧
      scene.Travelled bound agent.history [index] member := by
  cases registered : scene.guidance.addAgent scene.world agent complete with
  | error fault =>
    rw [perform, registered] at added
    cases added
  | ok guidance =>
    have performed : scene.perform (.add agent complete) = ({ scene with guidance }, none) := by
      rw [perform, registered]
      rfl
    rcases Guidance.addAgent_eq_ok registered with
      ⟨region, awareness, fresh, bound, exposed, located, discovered, isBound, done, -, rfl⟩
    have isInside := numbered.region_lt_of_mem (Network.regionFor_mem located)
    rw [partly] at discovered
    refine ⟨region.index, bound, ⟨exposed, awareness⟩, ?_, isBound, ?_, ?_⟩
    · refine (if_pos ⟨rfl, Option.isNone_iff_eq_none.mpr added⟩).trans ?_
      exact congrArg (fun result => result.toOption.map Region.index) located
    · rw [performed]
      exact (Guidance.find?_setMember _ _ _ _).trans (if_pos rfl)
    · rcases Awareness.discover_cases discovered with ⟨isKnown, -⟩ | ⟨-, index, isIndex, rfl⟩
      · rcases Awareness.knows_natCast_iff.mp isKnown with full | earlier
        · cases full
        · exact absurd earlier List.not_mem_nil
      · cases Int.ofNat.inj isIndex
        rw [Guidance.expose_eq done]
        refine ⟨rfl, rfl, ?_, ⟨region, located, rfl, rfl⟩, rfl, rfl, ?_⟩
        · intro index isStop
          rw [List.mem_singleton.mp isStop]
          exact isInside
        · exact congrArg (Agent.recent (some bound)) (List.append_nil _).symm

/-- Whatever calls follow its registration, short of its removal, an agent that came without
knowledge has travelled its itinerary. -/
theorem travelled_run {agent : Agent α} {complete : Option Bool}
    (numbered : scene.guidance.network.Numbered)
    (partly : complete.getD (scene.guidance.settings.value .fullKnowledge).truthy = false)
    (added : (scene.perform (.add agent complete)).2 = none) (calls : List (Call α σ γ))
    (stays : ∀ call ∈ calls, call ≠ .remove agent.pid) :
    ∃ bound member, Guidance.historyBound scene.guidance.settings = .ok bound ∧
      (scene.run (.add agent complete :: calls)).guidance.members.find? agent.pid = some member ∧
      scene.Travelled bound agent.history
        (scene.itinerary agent.pid (.add agent complete :: calls)) member := by
  induction calls using List.reverseRecOn with
  | nil =>
    rcases travelled_add numbered partly added with
      ⟨index, bound, member, isFound, isBound, isMember, travelled⟩
    refine ⟨bound, member, isBound, isMember, ?_⟩
    have route : scene.itinerary agent.pid [.add agent complete] = [index] := by
      unfold itinerary
      rw [events, events, List.filterMap_cons_some isFound]
      rfl
    rw [route]
    exact travelled
  | append_singleton calls call hypothesis =>
    rcases hypothesis fun earlier isEarlier => stays earlier (List.mem_append_left _ isEarlier) with
      ⟨bound, member, isBound, isMember, travelled⟩
    have follows := scene.follows_run (.add agent complete :: calls)
    rw [← List.cons_append, run_append_singleton, itinerary_append_singleton]
    rcases travelled_perform (follows.reachable.frame.1 ▸ numbered) isMember
      (follows.travelled_iff.mpr travelled) (stays call (by simp)) with ⟨after, isAfter, goesOn⟩
    exact ⟨bound, after, isBound, isAfter, follows.travelled_iff.mp goesOn⟩

/-- Every call of a run after others was made in the scene to which they led. -/
theorem exists_of_mem_events {event : Event α σ γ} {calls : List (Call α σ γ)}
    (isEvent : event ∈ scene.events calls) :
    ∃ early late, calls = early ++ event.2 :: late ∧ event.1 = scene.run early := by
  induction calls generalizing scene with
  | nil => exact absurd isEvent List.not_mem_nil
  | cons call rest hypothesis =>
    rcases List.mem_cons.mp isEvent with rfl | later
    · exact ⟨[], rest, rfl, rfl⟩
    · rcases hypothesis later with ⟨early, late, rfl, isScene⟩
      exact ⟨call :: early, late, rfl, isScene⟩

/-- What an agent that came without knowledge knows and remembers after any calls, whether they
succeeded or failed: the regions of its itinerary, each once, and the last of those that it left.
Where the conditions know all regions, a move counts for the itinerary exactly if it succeeds. -/
theorem itinerary_of_run [LawfulNumerals α] {start : Scene α σ γ} {agent : Agent α}
    {complete : Option Bool} {count : Int} (numbered : start.guidance.network.Numbered)
    (partly : complete.getD (start.guidance.settings.value .fullKnowledge).truthy = false)
    (memory : (start.guidance.settings.value .memory).integer? = some count)
    (added : (start.perform (.add agent complete)).2 = none) {calls : List (Call α σ γ)}
    (stays : ∀ call ∈ calls, call ≠ .remove agent.pid) :
    let whole := .add agent complete :: calls
    let route := start.itinerary agent.pid whole
    (∃ member known, (start.run whole).guidance.members.find? agent.pid = some member ∧
      member.awareness.knownRegions = .ok known ∧ known.map Region.index = route.eraseDups ∧
      member.agent.history = Agent.recent (some (max 1 count).toNat)
        (agent.history ++ route.dropLast.map Int.ofNat)) ∧
    ((∀ number, start.guidance.field = some number →
        start.guidance.network.size ≤ (start.fields number).conditions.network.size) →
      ∀ scene position floor, (scene, .move agent.pid position floor) ∈ start.events whole →
        found? agent.pid (scene, .move agent.pid position floor) =
          (scene.guidance.move scene.world agent.pid position floor).2.toOption.map
            Region.index) := by
  intro whole route
  constructor
  · rcases travelled_run numbered partly added calls stays with
      ⟨bound, member, isBound, isMember, travelled⟩
    rcases travelled.knownRegions numbered with ⟨known, isKnown, regions⟩
    refine ⟨member, known, isMember, isKnown, regions, ?_⟩
    rw [← Guidance.historyBound_eq memory isBound]
    exact travelled.history
  · intro known scene position floor isEvent
    rcases exists_of_mem_events isEvent with ⟨early, late, isWhole, rfl⟩
    have parts : .add agent complete :: calls =
      early ++ .move agent.pid position floor :: late := isWhole
    cases early with
    | nil => cases parts
    | cons first earlier =>
      cases parts
      have follows := start.follows_run (.add agent complete :: earlier)
      rcases follows.reachable.frame with ⟨network, -, field, -⟩
      rcases travelled_run numbered partly added earlier fun call isEarlier =>
        stays call (List.mem_append_left _ isEarlier) with ⟨bound, member, -, isMember, travelled⟩
      refine found?_eq_of_known (network ▸ numbered) isMember
        (follows.travelled_iff.mpr travelled) (fun number isField => ?_) position floor
      rw [network, follows.watches rfl]
      exact known number (field ▸ isField)

/-- An agent walks to and fro in the row and to its end.  One move is refused, and one stays in the
room. -/
def stroll : List (Call Rat (Box Rat) (List Rat)) :=
  [.move 1 ⟨3, 1⟩ none, .step .null, .move 1 ⟨9, 9⟩ none, .move 1 ⟨1, 1⟩ none, .ignite 0 2 none,
    .move 1 ⟨3, 1⟩ none, .move 1 ⟨3, 0⟩ none, .move 1 ⟨5, 1⟩ none, .step .null]

theorem itinerary_of_stroll :
    let whole := .add Guidance.walker (some false) :: stroll
    (∃ member known, (row.run whole).guidance.members.find? 1 = some member ∧
      member.awareness.knownRegions = .ok known ∧ known.map Region.index = [0, 1, 2] ∧
      member.agent.history = [1, 0, 1]) ∧
    ∀ scene position floor, (scene, .move 1 position floor) ∈ row.events whole →
      found? 1 (scene, .move 1 position floor) =
        (scene.guidance.move scene.world 1 position floor).2.toOption.map Region.index := by
  intro whole
  have route : row.itinerary 1 whole = [0, 1, 0, 1, 2] := by decide +kernel
  have added : (row.perform (.add Guidance.walker (some false))).2 = none :=
    Option.isNone_iff_eq_none.mp (by decide +kernel)
  have stays : ∀ call ∈ stroll, call ≠ .remove Guidance.walker.pid := by simp [stroll]
  rcases itinerary_of_run Building.row_priced.formed.numbered rfl rfl added stays with
    ⟨⟨member, known, isMember, isKnown, regions, history⟩, successful⟩
  refine ⟨⟨member, known, isMember, isKnown, ?_, ?_⟩, successful fun _ _ => le_rfl⟩
  · rw [regions]
    exact congrArg List.eraseDups route
  · rw [history]
    exact congrArg (fun stops : List Nat =>
      Agent.recent (some 3) ([] ++ stops.dropLast.map Int.ofNat)) route

/-- The row with conditions that are kept for its first room alone. -/
def halfWatched : Scene Rat (Box Rat) (List Rat) :=
  { row with fields := fun _ =>
      .ofNetwork (.ofLists (Building.rowNetwork.regions.take 1) []) .defaults [] }

/-- A move into a room that the conditions do not know fails, and the agent knows the room and has
left the first one all the same. -/
theorem itinerary_of_failed_move :
    let before := (halfWatched.perform (.add Guidance.walker (some false))).1.guidance
    let move := before.move halfWatched.world 1 ⟨3, 1⟩ none
    let regionsKnown := fun guidance : Guidance Rat => (guidance.maps.find? 1).bind fun map =>
      map.knownRegions.toOption.map fun known => known.map Region.index
    move.2.isOk = false ∧ regionsKnown before = some [0] ∧ regionsKnown move.1 = some [0, 1] ∧
      (move.1.agents.find? 1).map (fun agent => agent.history) = some [0] := by
  decide +kernel

end Scene

end Egress
