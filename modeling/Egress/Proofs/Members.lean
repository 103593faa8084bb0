import Egress.Proofs.Hop
import Egress.Proofs.Rectangle
import Egress.Proofs.Roster
import Egress.Proofs.Sequence
import Egress.Proofs.Table

/-!
# What is kept of registered agents

An agent that is registered is located, its history is bounded and its flags are set by the smoke
around it; a move does the same for another place.  Nothing else that happens in a scene touches
the agent.  So at any time the agent's flag tells of the smoke that there was when the agent was
located last, in the region where it was found then.

Failing calls count as well: a move that is refused leaves the agent as it was, and where the
conditions are those of the same network, an agent that can be located can be exposed.
-/

namespace Egress

namespace Agent

variable {α : Type}

theorem inSmoke_exposed (agent : Agent α) (smoky : Bool) :
    (agent.exposed smoky).inSmoke = smoky := by
  unfold exposed
  cases smoky with
  | false => simp [inSmoke]
  | true =>
    rw [if_pos rfl]
    split
    · assumption
    · simp [inSmoke]

theorem length_recent_le (bound : Nat) (history : List Int) :
    (recent (some bound) history).length ≤ bound := by
  simp only [recent, List.length_drop]
  omega

end Agent

namespace Guidance

variable {α σ : Type} [Scalar α] {guidance : Guidance α} {world : World α σ} {pid : Int}

/-- An agent's flag tells whether there is smoke in its region, if there are conditions. -/
def Exposed (field : Option Nat) (world : World α σ) (agent : Agent α) : Prop :=
  ∀ number, field = some number → ∃ region, agent.region = some region ∧
    (world.conditions number).isSmoky region = .ok agent.inSmoke

/-- The agent goes by its number and its history is bounded as the settings say. -/
structure Kept (settings : Settings α) (pid : Int) (agent : Agent α) : Prop where
  pid : agent.pid = pid
  bounded : ∃ bound, historyBound settings = .ok bound ∧ agent.bound = some bound ∧
    agent.history.length ≤ bound

/-- The conditions that agents are exposed to are those of the network. -/
structure Monitored (guidance : Guidance α) (world : World α σ) : Prop where
  formed : guidance.network.WellFormed
  watched : ∀ number, guidance.field = some number →
    (world.conditions number).network = guidance.network

theorem Kept.length_le {settings : Settings α} {agent : Agent α} (kept : Kept settings pid agent) :
    agent.history.length ≤ 1 ∨ ∃ count, (settings.value .memory).integer? = some count ∧
      (agent.history.length : Int) ≤ count := by
  rcases kept.bounded with ⟨bound, isBound, -, short⟩
  unfold historyBound at isBound
  split at isBound
  · cases isBound
  · split at isBound
    · split at isBound
      · rename_i count isCount
        split at isBound
        · cases isBound
          by_cases positive : 0 ≤ count
          · exact Or.inr ⟨count, isCount, by omega⟩
          · exact Or.inl (by omega)
        · cases isBound
      · cases isBound
    · cases isBound
      exact Or.inl short

theorem exposed_of_expose {region : Region α} {agent exposed : Agent α}
    (done : guidance.expose world region agent = .ok exposed)
    (inRegion : agent.region = some ↑region.index) : Exposed guidance.field world exposed := by
  intro number isField
  refine ⟨region.index, ?_, ?_⟩
  · rw [expose_eq done]
    exact inRegion
  · unfold expose at done
    rw [isField] at done
    rcases bind_eq_ok.mp done with ⟨smoky, isSmoky, same⟩
    cases same
    rw [isSmoky, Agent.inSmoke_exposed]

/-- An agent in a region that the conditions know can be exposed to them. -/
theorem exists_expose_of_lt {region : Region α}
    (known : ∀ number, guidance.field = some number →
      region.index < (world.conditions number).network.size) (agent : Agent α) :
    ∃ exposed, guidance.expose world region agent = .ok exposed := by
  unfold expose
  cases isField : guidance.field with
  | none => exact ⟨agent, rfl⟩
  | some number =>
    have inside := known number isField
    have isIndex : (world.conditions number).regionIndex region.index = .ok region.index := by
      rw [Conditions.regionIndex, if_pos ⟨by omega, by omega⟩]
      rfl
    simp only [Conditions.isSmoky, Conditions.density, isIndex]
    exact ⟨_, rfl⟩

/-- An agent that is in a region of the network can be exposed to the conditions. -/
theorem exists_expose (monitored : guidance.Monitored world) {region : Region α}
    (inside : region.index < guidance.network.size) (agent : Agent α) :
    ∃ exposed, guidance.expose world region agent = .ok exposed := by
  refine exists_expose_of_lt (fun number isField => ?_) agent
  rw [monitored.watched number isField]
  exact inside

/-- Entering a region leaves an agent its name and its bound. -/
theorem Kept.enter {settings : Settings α} {member entered : Member α} {region : Region α}
    (kept : Kept settings pid member.agent) (done : Guidance.enter member region = .ok entered) :
    Kept settings pid entered.agent ∧ entered.agent.region = some ↑region.index := by
  unfold Guidance.enter at done
  split at done
  · rename_i same
    cases done
    exact ⟨kept, same⟩
  · rcases bind_eq_ok.mp done with ⟨⟨awareness, fresh⟩, -, same⟩
    cases same
    refine ⟨?_, rfl⟩
    rcases kept with ⟨isPid, bound, isBound, bounded, short⟩
    cases member.agent.region with
    | none => exact ⟨isPid, bound, isBound, bounded, short⟩
    | some left =>
      refine ⟨isPid, bound, isBound, bounded, ?_⟩
      simp only [Agent.remember, Agent.withHistory, bounded]
      exact Agent.length_recent_le bound _

/-! ## Agents and what they know -/

/-- The registered agents. -/
def agents (guidance : Guidance α) : Table Int (Agent α) :=
  guidance.members.mapValues fun _ member => member.agent

/-- What the registered agents know. -/
def maps (guidance : Guidance α) : Table Int (Awareness α) :=
  guidance.members.mapValues fun _ member => member.awareness

omit [Scalar α] in
theorem keys_agents (guidance : Guidance α) : guidance.agents.keys = guidance.maps.keys := by
  simp only [agents, maps, Table.keys_mapValues]

omit [Scalar α] in
theorem find?_agents {agent : Agent α} : guidance.agents.find? pid = some agent ↔
    ∃ awareness, guidance.members.find? pid = some ⟨agent, awareness⟩ := by
  rw [agents, Table.find?_mapValues, Option.map_eq_some_iff]
  constructor
  · rintro ⟨⟨_, awareness⟩, isMember, rfl⟩
    exact ⟨awareness, isMember⟩
  · rintro ⟨awareness, isMember⟩
    exact ⟨_, isMember, rfl⟩

omit [Scalar α] in
theorem find?_maps {awareness : Awareness α} : guidance.maps.find? pid = some awareness ↔
    ∃ agent, guidance.members.find? pid = some ⟨agent, awareness⟩ := by
  rw [maps, Table.find?_mapValues, Option.map_eq_some_iff]
  constructor
  · rintro ⟨⟨agent, _⟩, isMember, rfl⟩
    exact ⟨agent, isMember⟩
  · rintro ⟨agent, isMember⟩
    exact ⟨_, isMember, rfl⟩

variable [Outline σ α]

/-- An agent that is registered is kept and exposed. -/
theorem addAgent_kept {after : Guidance α} {agent : Agent α} {complete : Option Bool}
    (added : guidance.addAgent world agent complete = .ok after) :
    ∃ member, after = guidance.setMember agent.pid member ∧
      Kept guidance.settings agent.pid member.agent ∧
      Exposed guidance.field world member.agent := by
  rcases addAgent_eq_ok added with
    ⟨region, awareness, fresh, bound, exposed, -, -, isBound, done, -, rfl⟩
  refine ⟨⟨exposed, awareness⟩, rfl, ?_, exposed_of_expose done rfl⟩
  rw [expose_eq done]
  exact ⟨rfl, bound, isBound, rfl, Agent.length_recent_le bound _⟩

/-- A move fails and changes nothing, or leaves the agent kept and exposed. -/
theorem move_kept (monitored : guidance.Monitored world)
    (kept : ∀ before, guidance.members.find? pid = some before →
      Kept guidance.settings pid before.agent) (position : Point α) (floor : Option Int) :
    (∃ fault, guidance.move world pid position floor = (guidance, .error fault)) ∨
    ∃ member region, guidance.move world pid position floor =
        (guidance.setMember pid member, .ok region) ∧
      Kept guidance.settings pid member.agent ∧ Exposed guidance.field world member.agent := by
  unfold move
  split
  · exact Or.inl ⟨_, rfl⟩
  · rename_i member isMember
    have before := kept member (member_eq_ok_iff.mp isMember)
    split
    · exact Or.inl ⟨_, rfl⟩
    · rename_i region located
      dsimp only
      split
      · exact Or.inl ⟨_, rfl⟩
      · rename_i entered done
        have inside := monitored.formed.region_lt_of_mem (Network.regionFor_mem located)
        rcases exists_expose monitored inside entered.agent with ⟨exposed, isExposed⟩
        have moved : Kept guidance.settings pid ({ member with agent :=
            { member.agent with position, floor := floor <|> member.agent.floor } } :
              Member α).agent := ⟨before.pid, before.bounded⟩
        rcases moved.enter done with ⟨after, inRegion⟩
        rw [isExposed]
        refine Or.inr ⟨_, region, rfl, ?_, exposed_of_expose isExposed inRegion⟩
        rw [expose_eq isExposed]
        exact ⟨after.pid, after.bounded⟩

end Guidance

namespace Scene

variable {α σ γ : Type} [Scalar α] [Outline σ α] [RandomSource γ α] {scene : Scene α σ γ}

/-- What a call leaves of an agent: the call located it, or did not touch it. -/
def Touches (scene : Scene α σ γ) (call : Call α σ γ) (pid : Int) (member : Member α) : Prop :=
  (Locates pid (scene, call) ∧ Guidance.Kept scene.guidance.settings pid member.agent ∧
      Guidance.Exposed scene.guidance.field scene.world member.agent) ∨
    ¬ Locates pid (scene, call) ∧ ∃ before,
      scene.guidance.members.find? pid = some before ∧ member.agent = before.agent

/-- A call that locates one agent leaves all others alone. -/
theorem touches_of_setMember {call : Call α σ γ} {other pid : Int} {located member : Member α}
    (performed : scene.perform call =
      ({ scene with guidance := scene.guidance.setMember other located }, none))
    (locates : ∀ pid, Locates pid (scene, call) ↔ (scene.perform call).2 = none ∧ other = pid)
    (kept : Guidance.Kept scene.guidance.settings other located.agent)
    (exposed : Guidance.Exposed scene.guidance.field scene.world located.agent)
    (isMember : (scene.perform call).1.guidance.members.find? pid = some member) :
    scene.Touches call pid member := by
  rw [performed] at isMember
  dsimp only at isMember
  rw [Guidance.find?_setMember] at isMember
  by_cases own : other = pid
  · subst own
    rw [if_pos rfl] at isMember
    cases isMember
    exact Or.inl ⟨(locates _).mpr ⟨congrArg Prod.snd performed, rfl⟩, kept, exposed⟩
  · rw [if_neg own] at isMember
    exact Or.inr ⟨fun located => own ((locates pid).mp located).2, member, isMember, rfl⟩

/-- Every call locates an agent or does not touch it. -/
theorem touches_perform (monitored : scene.guidance.Monitored scene.world)
    (kept : ∀ pid before, scene.guidance.members.find? pid = some before →
      Guidance.Kept scene.guidance.settings pid before.agent)
    {call : Call α σ γ} {pid : Int} {member : Member α}
    (isMember : (scene.perform call).1.guidance.members.find? pid = some member) :
    scene.Touches call pid member := by
  rcases performs scene call with ⟨apart, same⟩ | ⟨number, outbreak, apart, -, changed⟩ |
    ⟨agent, complete, guidance, rfl, added, changed⟩ |
    ⟨other, agent, guidance, rfl, removed, changed⟩ | ⟨other, position, floor, rfl⟩ | ⟨time, rfl⟩
  · rw [same] at isMember
    exact Or.inr ⟨apart pid, member, isMember, rfl⟩
  · rw [changed] at isMember
    exact Or.inr ⟨apart pid, member, isMember, rfl⟩
  · rcases Guidance.addAgent_kept added with ⟨registered, rfl, isKept, exposed⟩
    exact touches_of_setMember changed (fun pid => locates_add_iff) isKept exposed isMember
  · rcases bind_eq_ok.mp removed with ⟨gone, -, same⟩
    cases same
    rw [changed] at isMember
    dsimp only at isMember
    rw [Table.find?_erase] at isMember
    split at isMember
    · cases isMember
    · exact Or.inr ⟨not_locates not_false, member, isMember, rfl⟩
  · rcases Guidance.move_kept monitored (kept other) position floor with
      ⟨fault, failed⟩ | ⟨located, region, moved, isKept, exposed⟩
    · have performed : scene.perform (.move other position floor) = (scene, some fault) := by
        rw [perform, failed]
        rfl
      rw [performed] at isMember
      refine Or.inr ⟨fun located => ?_, member, isMember, rfl⟩
      cases (congrArg Prod.snd performed).symm.trans located.1
    · refine touches_of_setMember ?_ (fun pid => locates_move_iff) isKept exposed isMember
      rw [perform, moved]
      rfl
  · refine Or.inr ⟨not_locates not_false, ?_⟩
    rcases scene.guidance.step_find? scene.world time pid with same | ⟨before, isBefore, ran⟩
    · exact ⟨member, same.symm.trans isMember, rfl⟩
    · cases isMember.symm.trans ran
      exact ⟨before, isBefore, rfl⟩

/-- The conditions stay those of the network, whatever the calls are. -/
theorem monitored_run {start : Scene α σ γ} (blank : start.guidance.members = ∅)
    (monitored : start.guidance.Monitored start.world) (calls : List (Call α σ γ)) :
    (start.run calls).guidance.Monitored (start.run calls).world := by
  have follows := start.follows_run calls
  rcases (follows.reachable.consistent blank).frame with ⟨network, -, field, -⟩
  refine ⟨network ▸ monitored.formed, fun number isField => ?_⟩
  rw [network]
  exact follows.watches (monitored.watched number (field ▸ isField))

/-- An agent was located by some call, and by none since. -/
theorem exists_located {start : Scene α σ γ} (blank : start.guidance.members = ∅)
    (monitored : start.guidance.Monitored start.world) (calls : List (Call α σ γ)) {pid : Int}
    {member : Member α}
    (isMember : (start.run calls).guidance.members.find? pid = some member) :
    Guidance.Kept start.guidance.settings pid member.agent ∧
      ∃ early event, Lasts (Locates pid) (start.events calls) early event ∧ Locates pid event ∧
        Guidance.Exposed start.guidance.field event.1.world member.agent := by
  induction calls using List.reverseRecOn generalizing pid member with
  | nil =>
    rw [run, List.foldl_nil, blank] at isMember
    cases isMember
  | append_singleton calls call hypothesis =>
    have follows := start.follows_run calls
    rcases (follows.reachable.consistent blank).frame with ⟨-, -, field, settings⟩
    have kept : ∀ pid before, (start.run calls).guidance.members.find? pid = some before →
        Guidance.Kept (start.run calls).guidance.settings pid before.agent := by
      intro pid before isBefore
      rw [settings]
      exact (hypothesis isBefore).1
    rw [run_append_singleton] at isMember
    rw [events_append_singleton]
    rcases touches_perform (monitored_run blank monitored calls) kept isMember with
      ⟨located, isKept, exposed⟩ | ⟨apart, before, isBefore, same⟩
    · rw [settings] at isKept
      rw [field] at exposed
      exact ⟨isKept, _, _, lasts_append_singleton_iff.mpr (Or.inl ⟨rfl, rfl⟩), located, exposed⟩
    · rcases hypothesis isBefore with ⟨isKept, early, event, lasts, located, exposed⟩
      rw [same]
      exact ⟨isKept, early, event, lasts_append_singleton_iff.mpr (Or.inr ⟨apart, lasts⟩),
        located, exposed⟩

/-- What is kept of the agents after any calls on guidance that began without agents, whether the
calls succeeded or failed.  In two tables, written one after the other, the calls leave the same. -/
theorem members_of_run {building : Building α σ} {network : Network α} {suite : Suite α}
    {field : Option Nat} {settings : Settings α} {fields : Nat → Outbreak α γ}
    (formed : network.WellFormed)
    (watched : ∀ number, field = some number → (fields number).conditions.network = network)
    (calls : List (Call α σ γ)) :
    let start : Scene α σ γ := ⟨building, .ofNetwork network suite field settings, fields⟩
    let roster := Roster.follow start.guidance (start.events calls)
    roster.agents.keys = roster.maps.keys ∧
    (start.run calls).guidance.agents = roster.agents ∧
    (start.run calls).guidance.maps = roster.maps ∧
    (start.run calls).guidance.agents.keys = (start.run calls).guidance.maps.keys ∧
    ∀ pid agent, (start.run calls).guidance.agents.find? pid = some agent →
      agent.pid = pid ∧
      (∃ region awareness, network.regionFor building agent.position agent.floor = .ok region ∧
        agent.region = some region.index ∧
        (start.run calls).guidance.maps.find? pid = some awareness ∧
        awareness.knows region.index = .ok true) ∧
      (agent.history.length ≤ 1 ∨ ∃ count, (settings.value .memory).integer? = some count ∧
        (agent.history.length : Int) ≤ count) ∧
      ∀ number, field = some number →
        ∃ early event region, Lasts (Locates pid) (start.events calls) early event ∧
          Locates pid event ∧ agent.region = some region ∧
          (event.1.fields number).conditions.isSmoky region = .ok agent.inSmoke := by
  intro start roster
  have inStep : roster = ⟨(start.run calls).guidance.agents, (start.run calls).guidance.maps⟩ :=
    Roster.follow_events rfl formed calls
  rw [inStep]
  refine ⟨Guidance.keys_agents _, rfl, rfl, Guidance.keys_agents _, ?_⟩
  intro pid agent isAgent
  rcases Guidance.find?_agents.mp isAgent with ⟨awareness, isMember⟩
  have monitored : start.guidance.Monitored start.world := ⟨formed, watched⟩
  have placed := ((start.follows_run calls).reachable.consistent rfl).placed pid _ isMember
  rcases placed.located with ⟨region, located, inRegion, isKnown⟩
  rcases placed.grown with ⟨complete, grown⟩
  rcases exists_located rfl monitored calls isMember with
    ⟨kept, early, event, lasts, locates, exposed⟩
  refine ⟨kept.pid, ⟨region, awareness, located, inRegion, ?_, ?_⟩, kept.length_le, ?_⟩
  · exact Guidance.find?_maps.mpr ⟨agent, isMember⟩
  · have inside := formed.region_lt_of_mem (Network.regionFor_mem located)
    rw [Awareness.knows_of_lt (grown.network ▸ inside), decide_eq_true isKnown]
  · intro number isField
    rcases exposed number isField with ⟨place, isPlace, isSmoky⟩
    exact ⟨early, event, place, lasts, locates, isPlace, isSmoky⟩

/-- Numbers that are drawn from a list, and zero from then on. -/
instance : RandomSource (List Rat) Rat where
  draw
    | [] => (0, [])
    | value :: rest => (value, rest)

/-- The row before any agent came. -/
def row : Scene Rat (Box Rat) (List Rat) where
  building := Building.row
  guidance := Guidance.emptyRow
  fields := fun _ => .ofNetwork Building.rowNetwork .defaults []

/-- An agent comes and moves into smoke, which then lifts unnoticed.  Two calls are refused. -/
def errand : List (Call Rat (Box Rat) (List Rat)) :=
  [.add Guidance.walker (some false), .add Guidance.walker none, .ignite 0 1 none,
    .move 1 ⟨3, 1⟩ none, .step .null, .reset 0, .move 1 ⟨9, 9⟩ none, .nextHop 1 (.index 2) .null]

theorem members_of_run_in_row : ∃ agent,
    let roster := Roster.follow row.guidance (row.events errand)
    roster.agents.keys = roster.maps.keys ∧ roster.agents.find? 1 = some agent ∧
    (row.run errand).guidance.agents.find? 1 = some agent ∧ agent.pid = 1 ∧
    (∃ region awareness, Building.rowNetwork.regionFor Building.row agent.position agent.floor =
        .ok region ∧ agent.region = some region.index ∧
      (row.run errand).guidance.maps.find? 1 = some awareness ∧
      awareness.knows region.index = .ok true) ∧
    (agent.history.length ≤ 1 ∨ ∃ count,
      ((Settings.defaults : Settings Rat).value .memory).integer? = some count ∧
        (agent.history.length : Int) ≤ count) ∧
    ∃ early event region, Lasts (Locates 1) (row.events errand) early event ∧
      Locates 1 event ∧ agent.region = some region ∧
      (event.1.fields 0).conditions.isSmoky region = .ok agent.inSmoke := by
  have registered : ((row.run errand).guidance.agents.find? 1).isSome = true := by decide +kernel
  rcases Option.isSome_iff_exists.mp registered with ⟨agent, isAgent⟩
  have watched : ∀ number, row.guidance.field = some number →
      (row.fields number).conditions.network = Building.rowNetwork := fun _ _ => rfl
  rcases @members_of_run _ _ _ _ _ _ row.building _ row.guidance.suite _ row.guidance.settings _
    Building.row_priced.formed watched errand with ⟨keys, agents, -, -, kept⟩
  rcases kept 1 agent isAgent with ⟨isPid, located, remembered, exposed⟩
  exact ⟨agent, keys, agents ▸ isAgent, isAgent, isPid, located, remembered, exposed 0 rfl⟩

end Scene

end Egress
