import Egress.Guidance
import Egress.Proofs.Knowledge

/-!
# States of guidance

Calls change the table of members and nothing else.  Whatever calls were made, and whatever the
conditions were at each of them, a member's awareness grew from a blank one of the network, the
member's region is the one in which its position lies, and it knows this region.
-/

namespace Egress

variable {α σ : Type} [Scalar α]

namespace Guidance

/-- Two states differ at most in their members. -/
def SameFrame (before after : Guidance α) : Prop :=
  after.network = before.network ∧ after.suite = before.suite ∧ after.field = before.field ∧
    after.settings = before.settings

omit [Scalar α] in
theorem SameFrame.refl (guidance : Guidance α) : SameFrame guidance guidance := ⟨rfl, rfl, rfl, rfl⟩

omit [Scalar α] in
theorem SameFrame.trans {first second third : Guidance α} (earlier : SameFrame first second)
    (later : SameFrame second third) : SameFrame first third :=
  ⟨later.1.trans earlier.1, later.2.1.trans earlier.2.1, later.2.2.1.trans earlier.2.2.1,
    later.2.2.2.trans earlier.2.2.2⟩

omit [Scalar α] in
theorem find?_setMember (guidance : Guidance α) (pid other : Int) (member : Member α) :
    (guidance.setMember pid member).members.find? other =
      if pid = other then some member else guidance.members.find? other :=
  Table.find?_insert _ _ _ _

omit [Scalar α] in
theorem member_eq_ok_iff {guidance : Guidance α} {pid : Int} {member : Member α} :
    guidance.member pid = .ok member ↔ guidance.members.find? pid = some member := by
  unfold Guidance.member
  cases guidance.members.find? pid with
  | none => simp only [reduceCtorEq]
  | some found => simp only [Except.ok.injEq, Option.some.injEq]

variable [Outline σ α]

/-! ## Steps -/

/-- A member after its suite was run. -/
def ran (suite : Suite α) (world : World α σ) (member : Member α) : Member α :=
  { member with awareness := (suite.run world member.agent member.awareness).awareness }

theorem stepAll_frame (world : World α σ) (time : Value α) (pids : List Int)
    (guidance : Guidance α) : guidance.SameFrame (stepAll world time guidance pids).1 := by
  induction pids generalizing guidance with
  | nil => exact .refl guidance
  | cons pid rest hypothesis =>
    rw [stepAll]
    split
    · exact hypothesis guidance
    · dsimp only
      split
      · exact ⟨rfl, rfl, rfl, rfl⟩
      · exact hypothesis (guidance.setMember pid _)

theorem stepAll_find?_of_notMem (world : World α σ) (time : Value α) {pids : List Int} {pid : Int}
    (absent : pid ∉ pids) (guidance : Guidance α) :
    (stepAll world time guidance pids).1.members.find? pid = guidance.members.find? pid := by
  induction pids generalizing guidance with
  | nil => rfl
  | cons first rest hypothesis =>
    have parts := List.ne_and_not_mem_of_not_mem_cons absent
    rw [stepAll]
    split
    · exact hypothesis parts.2 guidance
    · dsimp only
      split
      · rw [find?_setMember, if_neg parts.1.symm]
      · apply (hypothesis parts.2 _).trans
        rw [find?_setMember, if_neg parts.1.symm]

/-- A step leaves a member as it was or runs the suite for it once. -/
theorem stepAll_find? (world : World α σ) (time : Value α) {pids : List Int}
    (distinct : pids.Nodup) (guidance : Guidance α) (pid : Int) :
    (stepAll world time guidance pids).1.members.find? pid = guidance.members.find? pid ∨
      ∃ member, guidance.members.find? pid = some member ∧
        (stepAll world time guidance pids).1.members.find? pid =
          some (ran guidance.suite world member) := by
  induction pids generalizing guidance with
  | nil => exact Or.inl rfl
  | cons first rest hypothesis =>
    have parts := List.nodup_cons.mp distinct
    cases found : guidance.members.find? first with
    | none =>
      simp only [stepAll, found]
      exact hypothesis parts.2 guidance
    | some member =>
      have entered : ∀ after : Guidance α,
          after.members.find? pid =
            (guidance.setMember first (ran guidance.suite world member)).members.find? pid →
          after.members.find? pid = guidance.members.find? pid ∨
            ∃ member, guidance.members.find? pid = some member ∧
              after.members.find? pid = some (ran guidance.suite world member) := by
        intro after same
        rw [same, find?_setMember]
        by_cases equal : first = pid
        · subst equal
          exact Or.inr ⟨member, found, if_pos rfl⟩
        · exact Or.inl (if_neg equal)
      simp only [stepAll, found]
      split
      · exact entered _ rfl
      · by_cases equal : first = pid
        · subst equal
          exact entered _ (stepAll_find?_of_notMem world time parts.1 _)
        · have apart : (guidance.setMember first (ran guidance.suite world member)).members.find?
              pid = guidance.members.find? pid := by
            rw [find?_setMember, if_neg equal]
          rcases hypothesis parts.2
              (guidance.setMember first (ran guidance.suite world member)) with
            same | ⟨other, isOther, nowOther⟩
          · exact Or.inl (same.trans apart)
          · exact Or.inr ⟨other, apart.symm.trans isOther, nowOther⟩

theorem step_frame (guidance : Guidance α) (world : World α σ) (time : Value α) :
    guidance.SameFrame (guidance.step world time).1 :=
  stepAll_frame world time _ guidance

theorem step_find? (guidance : Guidance α) (world : World α σ) (time : Value α) (pid : Int) :
    (guidance.step world time).1.members.find? pid = guidance.members.find? pid ∨
      ∃ member, guidance.members.find? pid = some member ∧
        (guidance.step world time).1.members.find? pid =
          some (ran guidance.suite world member) :=
  stepAll_find? world time guidance.members.keys_nodup guidance pid

/-! ## Other calls -/

omit [Outline σ α] in
theorem expose_eq {guidance : Guidance α} {world : World α σ} {region : Region α}
    {agent exposed : Agent α} (done : guidance.expose world region agent = .ok exposed) :
    exposed = { agent with flags := exposed.flags } := by
  unfold expose at done
  split at done
  · cases done
    rfl
  · rcases bind_eq_ok.mp done with ⟨smoky, -, same⟩
    cases same
    unfold Agent.exposed
    split
    · split
      · rfl
      · rfl
    · rfl

/-- How an agent is registered: it is located, its history is bounded, and it is exposed to the
conditions of its region, the only one that it knows. -/
theorem addAgent_eq_ok {guidance after : Guidance α} {world : World α σ} {agent : Agent α}
    {complete : Option Bool} (added : guidance.addAgent world agent complete = .ok after) :
    ∃ region awareness fresh bound exposed,
      guidance.network.regionFor world.building agent.position agent.floor = .ok region ∧
      (Awareness.ofNetwork guidance.network
        (complete.getD (guidance.settings.value .fullKnowledge).truthy)
        guidance.settings).discover region.index = .ok (awareness, fresh) ∧
      historyBound guidance.settings = .ok bound ∧
      guidance.expose world region
        (({ agent with region := some ↑region.index } : Agent α).bounded bound) = .ok exposed ∧
      guidance.members.find? agent.pid = none ∧
      after = guidance.setMember agent.pid ⟨exposed, awareness⟩ := by
  unfold addAgent at added
  split at added
  · cases added
  · rename_i fresh
    rcases bind_eq_ok.mp added with ⟨region, located, rest⟩
    rcases bind_eq_ok.mp rest with ⟨⟨awareness, new⟩, discovered, rest⟩
    rcases bind_eq_ok.mp rest with ⟨bound, isBound, rest⟩
    rcases bind_eq_ok.mp rest with ⟨exposed, done, same⟩
    cases same
    refine ⟨region, awareness, new, bound, exposed, located, discovered, isBound, done,
      Option.not_isSome_iff_eq_none.mp fresh, ?_⟩
    rw [expose_eq done]
    rfl

/-- What registering an agent adds: a member with a blank awareness in which only the region is
known where the agent stands. -/
theorem addAgent_cases {guidance after : Guidance α} {world : World α σ} {agent : Agent α}
    {complete : Option Bool} (added : guidance.addAgent world agent complete = .ok after) :
    ∃ region awareness fresh bound flags,
      guidance.network.regionFor world.building agent.position agent.floor = .ok region ∧
      (Awareness.ofNetwork guidance.network
        (complete.getD (guidance.settings.value .fullKnowledge).truthy)
        guidance.settings).discover region.index = .ok (awareness, fresh) ∧
      guidance.members.find? agent.pid = none ∧
      after = guidance.setMember agent.pid
        ⟨{ ({ agent with region := some ↑region.index } : Agent α).bounded bound with flags },
          awareness⟩ := by
  rcases addAgent_eq_ok added with
    ⟨region, awareness, fresh, bound, exposed, located, discovered, -, done, isNew, rfl⟩
  refine ⟨region, awareness, fresh, bound, exposed.flags, located, discovered, isNew, ?_⟩
  rw [expose_eq done]

omit [Scalar α] in
/-- What entering a region makes of a member. -/
theorem enter_cases {member entered : Member α} {region : Region α}
    (done : enter member region = .ok entered) :
    (member.agent.region = some ↑region.index ∧ entered = member) ∨
    (member.agent.region ≠ some ↑region.index ∧ ∃ awareness fresh history,
      member.awareness.discover region.index = .ok (awareness, fresh) ∧
      (∀ left, member.agent.region = some left →
        history = Agent.recent member.agent.bound (member.agent.history ++ [left])) ∧
      entered = ⟨{ member.agent with region := some ↑region.index, history }, awareness⟩) := by
  unfold enter at done
  split at done
  · rename_i same
    cases done
    exact Or.inl ⟨same, rfl⟩
  · rename_i different
    rcases bind_eq_ok.mp done with ⟨⟨awareness, fresh⟩, discovered, same⟩
    cases same
    refine Or.inr ⟨different, awareness, fresh, ?_⟩
    cases member.agent.region with
    | none =>
      refine ⟨member.agent.history, discovered, ?_, rfl⟩
      intro left impossible
      cases impossible
    | some left =>
      refine ⟨Agent.recent member.agent.bound (member.agent.history ++ [left]), discovered, ?_, rfl⟩
      intro other same
      cases same
      rfl

omit [Scalar α] in
/-- Entering another region: the one left is remembered, and the new one discovered. -/
theorem enter_of_discover {member : Member α} {region : Region α} {awareness : Awareness α}
    {fresh : Bool} (discovered : member.awareness.discover region.index = .ok (awareness, fresh))
    {left : Int} (isLeft : member.agent.region = some left) (different : left ≠ region.index) :
    enter member region =
      .ok ⟨{ member.agent.remember left with region := some ↑region.index }, awareness⟩ := by
  have apart : ¬ member.agent.region = some ↑region.index := by
    rw [isLeft]
    exact fun same => different (Option.some.inj same)
  apply (if_neg apart).trans
  rw [discovered, isLeft]
  rfl

omit [Scalar α] in
/-- Entering another region that is known already changes only the agent. -/
theorem enter_of_knows {member : Member α} {region : Region α}
    (inside : region.index < member.awareness.network.size)
    (isKnown : member.awareness.Knows region.index) {left : Int}
    (isLeft : member.agent.region = some left) (different : left ≠ region.index) :
    enter member region =
      .ok ⟨{ member.agent.remember left with region := some ↑region.index }, member.awareness⟩ := by
  rcases Awareness.discover_of_lt inside with ⟨awareness, fresh, discovered⟩
  rcases Awareness.discover_cases discovered with ⟨-, rfl⟩ | ⟨unknown, -⟩
  · exact enter_of_discover discovered isLeft different
  · exact absurd isKnown unknown

omit [Scalar α] in
/-- Entering a region that is not known adds it to what was discovered. -/
theorem enter_of_unknown {member : Member α} {region : Region α}
    (inside : region.index < member.awareness.network.size)
    (unknown : ¬ member.awareness.Knows region.index) {left : Int}
    (isLeft : member.agent.region = some left) (different : left ≠ region.index) :
    enter member region =
      .ok ⟨{ member.agent.remember left with region := some ↑region.index },
        { member.awareness with
          discovered := member.awareness.discovered ++ [region.index] }⟩ := by
  rcases Awareness.discover_of_lt inside with ⟨awareness, fresh, discovered⟩
  rcases Awareness.discover_cases discovered with ⟨isKnown, -⟩ | ⟨-, index, same, rfl⟩
  · exact absurd isKnown unknown
  · cases same
    exact enter_of_discover discovered isLeft different

/-- A move to a region that can be entered makes the agent enter it, exposed to whatever. -/
theorem move_of_enter {guidance : Guidance α} {world : World α σ} {pid : Int} {position : Point α}
    {floor : Option Int} {member entered : Member α} {region : Region α}
    (isMember : guidance.members.find? pid = some member)
    (located : guidance.network.regionFor world.building position (floor <|> member.agent.floor) =
      .ok region)
    (done : enter { member with agent :=
      { member.agent with position, floor := floor <|> member.agent.floor } } region =
      .ok entered) :
    ∃ flags, (guidance.move world pid position floor).1 =
      guidance.setMember pid { entered with agent := { entered.agent with flags } } := by
  simp only [move, member_eq_ok_iff.mpr isMember, located, done]
  split
  · exact ⟨entered.agent.flags, rfl⟩
  · rename_i agent exposed
    refine ⟨agent.flags, ?_⟩
    rw [← expose_eq exposed]

/-- A move to another region that is known already changes only the agent, who remembers the region
that was left. -/
theorem move_of_knows {guidance : Guidance α} {world : World α σ} {pid : Int} {position : Point α}
    {floor : Option Int} {member : Member α} {region : Region α}
    (isMember : guidance.members.find? pid = some member)
    (located : guidance.network.regionFor world.building position (floor <|> member.agent.floor) =
      .ok region)
    (inside : region.index < member.awareness.network.size)
    (isKnown : member.awareness.Knows region.index) {left : Int}
    (isLeft : member.agent.region = some left) (different : left ≠ region.index) :
    ∃ after, (guidance.move world pid position floor).1.members.find? pid = some after ∧
      after.awareness = member.awareness ∧ after.agent.position = position ∧
      after.agent.floor = (floor <|> member.agent.floor) ∧
      after.agent.bound = member.agent.bound ∧
      after.agent.history =
        Agent.recent member.agent.bound (member.agent.history ++ [left]) := by
  have stillInside : region.index < ({ member with agent :=
      { member.agent with position, floor := floor <|> member.agent.floor } } :
        Member α).awareness.network.size := inside
  have entered := enter_of_knows stillInside isKnown isLeft different
  rcases move_of_enter isMember located entered with ⟨flags, moved⟩
  rw [moved, find?_setMember, if_pos rfl]
  exact ⟨_, rfl, rfl, rfl, rfl, rfl, rfl⟩

/-- A move leaves everything as it was, or locates the agent at the new position and enters the
region there. -/
theorem move_cases (guidance : Guidance α) (world : World α σ) (pid : Int) (position : Point α)
    (floor : Option Int) :
    (guidance.move world pid position floor).1 = guidance ∨
    ∃ member region entered flags, guidance.members.find? pid = some member ∧
      guidance.network.regionFor world.building position (floor <|> member.agent.floor) =
        .ok region ∧
      enter { member with agent :=
        { member.agent with position, floor := floor <|> member.agent.floor } } region =
        .ok entered ∧
      (guidance.move world pid position floor).1 =
        guidance.setMember pid { entered with agent := { entered.agent with flags } } := by
  cases isMember : guidance.member pid with
  | error fault => exact Or.inl (by simp only [move, isMember])
  | ok member =>
    cases located : guidance.network.regionFor world.building position
        (floor <|> member.agent.floor) with
    | error fault => exact Or.inl (by simp only [move, isMember, located])
    | ok region =>
      cases done : enter { member with agent :=
          { member.agent with position, floor := floor <|> member.agent.floor } } region with
      | error fault => exact Or.inl (by simp only [move, isMember, located, done])
      | ok entered =>
        have isEntry := member_eq_ok_iff.mp isMember
        rcases move_of_enter isEntry located done with ⟨flags, moved⟩
        exact Or.inr ⟨member, region, entered, flags, isEntry, located, done, moved⟩

/-! ## Reachable states -/

/-- The states that calls lead to in one building, whatever the conditions are at each call. -/
inductive Reachable (building : Building α σ) (initial : Guidance α) : Guidance α → Prop
  | start : Reachable building initial initial
  | add {guidance after : Guidance α} (conditions : Nat → Conditions α) (agent : Agent α)
      (complete : Option Bool) : Reachable building initial guidance →
      guidance.addAgent ⟨building, conditions⟩ agent complete = .ok after →
      Reachable building initial after
  | remove {guidance after : Guidance α} {agent : Agent α} (pid : Int) :
      Reachable building initial guidance → guidance.removeAgent pid = .ok (agent, after) →
      Reachable building initial after
  | move {guidance : Guidance α} (conditions : Nat → Conditions α) (pid : Int) (position : Point α)
      (floor : Option Int) : Reachable building initial guidance →
      Reachable building initial (guidance.move ⟨building, conditions⟩ pid position floor).1
  | step {guidance : Guidance α} (conditions : Nat → Conditions α) (time : Value α) :
      Reachable building initial guidance →
      Reachable building initial (guidance.step ⟨building, conditions⟩ time).1

/-- What holds of every member: its awareness grew from a blank one, it stands in the region in
which it was located last and knows that region, and its history is bounded. -/
structure Placed (guidance : Guidance α) (building : Building α σ) (member : Member α) : Prop where
  grown : ∃ complete, (Awareness.ofNetwork guidance.network complete guidance.settings).Grows
    member.awareness
  located : ∃ region,
    guidance.network.regionFor building member.agent.position member.agent.floor = .ok region ∧
      member.agent.region = some ↑region.index ∧ member.awareness.Knows region.index
  bounded : ∃ bound, member.agent.bound = some bound

/-- What holds of every state: it differs from the initial one only in its members, and all of them
are placed. -/
structure Consistent (building : Building α σ) (initial guidance : Guidance α) : Prop where
  frame : initial.SameFrame guidance
  placed : ∀ pid member, guidance.members.find? pid = some member →
    initial.Placed building member

variable {building : Building α σ} {initial guidance : Guidance α}

/-- Calls change nothing but the members. -/
theorem Reachable.frame (reachable : Reachable building initial guidance) :
    initial.SameFrame guidance := by
  induction reachable with
  | start => exact .refl initial
  | add conditions agent complete _ added hypothesis =>
    rcases addAgent_cases added with ⟨_, _, _, _, _, -, -, -, rfl⟩
    exact hypothesis
  | remove pid _ removed hypothesis =>
    rcases bind_eq_ok.mp removed with ⟨member, -, same⟩
    cases same
    exact hypothesis
  | @move guidance conditions pid position floor _ hypothesis =>
    rcases move_cases guidance ⟨building, conditions⟩ pid position floor with same |
      ⟨_, _, _, _, -, -, -, moved⟩
    · rw [same]
      exact hypothesis
    · rw [moved]
      exact hypothesis
  | step conditions time _ hypothesis => exact hypothesis.trans (step_frame _ _ time)

/-- A placed member sees a sound network. -/
theorem Placed.sound {member : Member α} (placed : initial.Placed building member)
    (priced : initial.network.Priced initial.settings) :
    member.awareness.Sound ∧ member.awareness.network = initial.network := by
  rcases placed.grown with ⟨complete, grown⟩
  exact ⟨grown.sound (Awareness.sound_of_priced priced complete []), grown.network⟩

/-- A placed member stays placed while its awareness grows. -/
theorem Placed.grow {member : Member α} (placed : initial.Placed building member)
    {awareness : Awareness α} (grows : member.awareness.Grows awareness) :
    initial.Placed building { member with awareness } := by
  rcases placed.grown with ⟨complete, grown⟩
  rcases placed.located with ⟨region, located, isRegion, isKnown⟩
  exact ⟨⟨complete, grown.trans grows⟩, ⟨region, located, isRegion, grows.known _ isKnown⟩,
    placed.bounded⟩

theorem Placed.ran {member : Member α} (placed : initial.Placed building member) (suite : Suite α)
    (world : World α σ) : initial.Placed building (Guidance.ran suite world member) :=
  placed.grow (suite.run_grows world member.agent member.awareness)

/-- Entering the region of a position places a member there. -/
theorem Placed.enter {member entered : Member α} (placed : initial.Placed building member)
    {position : Point α} {floor : Option Int} {region : Region α}
    (located : initial.network.regionFor building position floor = .ok region)
    (done : Guidance.enter { member with agent := { member.agent with position, floor } } region =
      .ok entered) (flags : List String) :
    initial.Placed building { entered with agent := { entered.agent with flags } } := by
  rcases placed.grown with ⟨complete, grown⟩
  rcases placed.bounded with ⟨bound, isBound⟩
  rcases enter_cases done with ⟨same, rfl⟩ | ⟨-, awareness, fresh, history, discovered, -, rfl⟩
  · rcases placed.located with ⟨before, -, isBefore, isKnown⟩
    have level : (before.index : Int) = region.index := Option.some.inj (isBefore.symm.trans same)
    exact ⟨⟨complete, grown⟩, ⟨region, located, same, level ▸ isKnown⟩, ⟨bound, isBound⟩⟩
  · rcases Awareness.grows_of_discover discovered with ⟨grows, isKnown⟩
    exact ⟨⟨complete, grown.trans grows⟩, ⟨region, located, rfl, isKnown⟩, ⟨bound, isBound⟩⟩

namespace Consistent

theorem start (blank : initial.members = ∅) : Consistent building initial initial := by
  refine ⟨.refl initial, ?_⟩
  intro pid member found
  rw [blank] at found
  cases found

/-- A new member knows the region in which it is located. -/
theorem add (consistent : Consistent building initial guidance) {conditions : Nat → Conditions α}
    {agent : Agent α} {complete : Option Bool} {after : Guidance α}
    (added : guidance.addAgent ⟨building, conditions⟩ agent complete = .ok after) :
    Consistent building initial after := by
  rcases consistent with ⟨frame, placed⟩
  rcases addAgent_cases added with
    ⟨region, awareness, fresh, bound, flags, located, discovered, -, rfl⟩
  rcases frame with ⟨network, suite, field, settings⟩
  refine ⟨⟨network, suite, field, settings⟩, ?_⟩
  intro pid member found
  rw [find?_setMember] at found
  split at found
  · cases found
    rcases Awareness.grows_of_discover discovered with ⟨grows, isKnown⟩
    rw [network, settings] at grows
    rw [network] at located
    exact ⟨⟨_, grows⟩, ⟨region, located, rfl, isKnown⟩, ⟨bound, rfl⟩⟩
  · exact placed pid member found

theorem remove (consistent : Consistent building initial guidance) {pid : Int}
    {agent : Agent α} {after : Guidance α}
    (removed : guidance.removeAgent pid = .ok (agent, after)) :
    Consistent building initial after := by
  rcases bind_eq_ok.mp removed with ⟨member, -, same⟩
  cases same
  refine ⟨consistent.frame, ?_⟩
  intro other kept found
  rw [Table.find?_erase] at found
  split at found
  · cases found
  · exact consistent.placed other kept found

theorem move (consistent : Consistent building initial guidance) (conditions : Nat → Conditions α)
    (pid : Int) (position : Point α) (floor : Option Int) :
    Consistent building initial (guidance.move ⟨building, conditions⟩ pid position floor).1 := by
  rcases move_cases guidance ⟨building, conditions⟩ pid position floor with same |
    ⟨member, region, entered, flags, isMember, located, done, moved⟩
  · rw [same]
    exact consistent
  · rw [moved]
    rcases consistent with ⟨frame, placed⟩
    refine ⟨frame, ?_⟩
    intro other kept found
    rw [find?_setMember] at found
    split at found
    · cases found
      rw [frame.1] at located
      exact (placed pid member isMember).enter located done flags
    · exact placed other kept found

theorem step (consistent : Consistent building initial guidance) (world : World α σ)
    (time : Value α) : Consistent building initial (guidance.step world time).1 := by
  refine ⟨consistent.frame.trans (guidance.step_frame world time), ?_⟩
  intro pid member found
  rcases guidance.step_find? world time pid with same | ⟨before, isBefore, ran⟩
  · exact consistent.placed pid member (same.symm.trans found)
  · cases found.symm.trans ran
    exact (consistent.placed pid before isBefore).ran _ _

end Consistent

/-- Every call keeps the members placed. -/
theorem Reachable.consistent (blank : initial.members = ∅)
    (reachable : Reachable building initial guidance) : Consistent building initial guidance := by
  induction reachable with
  | start => exact .start blank
  | add _ _ _ _ added hypothesis => exact hypothesis.add added
  | remove _ _ removed hypothesis => exact hypothesis.remove removed
  | move conditions pid position floor _ hypothesis =>
    exact hypothesis.move conditions pid position floor
  | step conditions time _ hypothesis => exact hypothesis.step _ time

end Guidance

end Egress
