import Egress.Proofs.Hop
import Egress.Proofs.Outbreak
import Egress.Proofs.Table

/-!
# Registering and moving, write by write

Registering an agent changes the agent itself, one field after another, before it is entered in the
table of members.  Moving a member changes the agent and what it knows.  Between two of these writes
something may fail, and then the earlier writes stand.  Here both calls are spelled out as sequences
of writes.

A registration that is spelled out comes to the same as one that says at once what becomes of the
agent: with the same fault, if it fails, and with the same members in any case.  What it adds is the
state in which a refused agent is left.  A move that is spelled out comes to the same where agents
see the network of the guidance, since then the region that was found can be discovered.
-/

namespace Egress

variable {α β δ σ : Type}

namespace Update

/-- Go on with what was computed, or fail with its fault and write nothing. -/
def given (computed : Except (Fault α) β) : Update σ α β := ExceptT.mk (pure computed)

theorem run_given (computed : Except (Fault α) β) (next : β → Update σ α δ) (state : σ) :
    ExceptT.run (given computed >>= next) state =
      match computed with
      | .ok value => ExceptT.run (next value) state
      | .error fault => (.error fault, state) := by
  rw [run_bind]
  cases computed with
  | ok value => rfl
  | error fault => rfl

end Update

/-- An agent that is to be registered, beside the guidance that is to register it. -/
structure Intake (α : Type) where
  guidance : Guidance α
  agent : Agent α

namespace Guidance

open Update

variable [Scalar α] [Outline σ α]

/-- Register an agent where it stands, write by write. -/
def registerByWrites (world : World α σ) (complete : Option Bool) : Update (Intake α) α PUnit := do
  let intake ← get
  let guidance := intake.guidance
  let agent := intake.agent
  if guidance.members.contains agent.pid then throw (.duplicateAgent agent.pid)
  else
    let region ← given (guidance.network.regionFor world.building agent.position agent.floor)
    let blank := Awareness.ofNetwork guidance.network
      (complete.getD (guidance.settings.value .fullKnowledge).truthy) guidance.settings
    let (awareness, _) ← given (blank.discover region.index)
    modify fun intake => { intake with agent := { intake.agent with region := some region.index } }
    let bound ← given (historyBound guidance.settings)
    modify fun intake => { intake with agent := intake.agent.bounded bound }
    let intake ← get
    let exposed ← given (guidance.expose world region intake.agent)
    modify fun intake => { intake with agent := exposed }
    modify fun intake => { intake with
      guidance := intake.guidance.setMember intake.agent.pid ⟨intake.agent, awareness⟩ }

/-- Enter a region, write by write. -/
def enterByWrites (region : Region α) : Update (Member α) α PUnit := do
  let member ← get
  if member.agent.region = some ↑region.index then return
  else
    modify fun member => { member with
      agent := match member.agent.region with
        | some left => member.agent.remember left
        | none => member.agent }
    modify fun member => { member with
      agent := { member.agent with region := some region.index } }
    let (awareness, _) ← given (member.awareness.discover region.index)
    modify fun member => { member with awareness }

/-- Move a member, write by write. -/
def relocate (guidance : Guidance α) (world : World α σ) (position : Point α)
    (floor : Option Int) : Update (Member α) α (Region α) := do
  let member ← get
  let region ← given (guidance.network.regionFor world.building position
    (floor <|> member.agent.floor))
  modify fun member => { member with agent := { member.agent with position } }
  modify fun member => { member with
    agent := { member.agent with floor := floor <|> member.agent.floor } }
  enterByWrites region
  let entered ← get
  let exposed ← given (guidance.expose world region entered.agent)
  modify fun member => { member with agent := exposed }
  return region

/-- Move an agent, write by write. -/
def moveByWrites (guidance : Guidance α) (world : World α σ) (pid : Int) (position : Point α)
    (floor : Option Int) : Guidance α × Except (Fault α) (Region α) :=
  match guidance.member pid with
  | .error fault => (guidance, .error fault)
  | .ok member =>
    let (result, after) := (guidance.relocate world position floor).run member
    (guidance.setMember pid after, result)

variable {guidance : Guidance α} {world : World α σ} {agent : Agent α} {complete : Option Bool}

/-- How far a registration gets. -/
theorem run_registerByWrites : (registerByWrites world complete).run ⟨guidance, agent⟩ =
    if guidance.members.contains agent.pid then
      (.error (.duplicateAgent agent.pid), ⟨guidance, agent⟩)
    else match guidance.network.regionFor world.building agent.position agent.floor with
    | .error fault => (.error fault, ⟨guidance, agent⟩)
    | .ok region =>
      match (Awareness.ofNetwork guidance.network
          (complete.getD (guidance.settings.value .fullKnowledge).truthy)
          guidance.settings).discover region.index with
      | .error fault => (.error fault, ⟨guidance, agent⟩)
      | .ok (awareness, _) =>
        let located := { agent with region := some region.index }
        match historyBound guidance.settings with
        | .error fault => (.error fault, ⟨guidance, located⟩)
        | .ok bound =>
          match guidance.expose world region (located.bounded bound) with
          | .error fault => (.error fault, ⟨guidance, located.bounded bound⟩)
          | .ok exposed =>
            (.ok ⟨⟩, ⟨guidance.setMember exposed.pid ⟨exposed, awareness⟩, exposed⟩) := by
  unfold registerByWrites
  rw [run_get]
  dsimp only
  split
  · rfl
  · rw [run_given]
    cases guidance.network.regionFor world.building agent.position agent.floor with
    | error fault => rfl
    | ok region =>
      dsimp only
      rw [run_given]
      cases (Awareness.ofNetwork guidance.network
          (complete.getD (guidance.settings.value .fullKnowledge).truthy)
          guidance.settings).discover region.index with
      | error fault => rfl
      | ok found =>
        dsimp only
        rw [run_modify, run_given]
        cases historyBound guidance.settings with
        | error fault => rfl
        | ok bound =>
          dsimp only
          rw [run_modify, run_get, run_given]
          dsimp only
          split
          · rename_i exposed done
            rw [done]
            rfl
          · rename_i fault failed
            rw [failed]

/-- A registration that succeeds does what `addAgent` does, and the agent that was handed in becomes
the one that is registered. -/
theorem registerByWrites_of_addAgent {after : Guidance α}
    (added : guidance.addAgent world agent complete = .ok after) :
    ∃ awareness exposed, after.members.find? agent.pid = some ⟨exposed, awareness⟩ ∧
      (registerByWrites world complete).run ⟨guidance, agent⟩ = (.ok ⟨⟩, ⟨after, exposed⟩) := by
  rcases addAgent_eq_ok added with
    ⟨region, awareness, fresh, bound, exposed, located, discovered, isBound, done, isNew, rfl⟩
  have samePid : exposed.pid = agent.pid := by
    rw [expose_eq done]
    rfl
  have notTaken : ¬ guidance.members.contains agent.pid = true := by
    rw [Table.contains, isNew]
    exact Bool.false_ne_true
  refine ⟨awareness, exposed, (find?_setMember ..).trans (if_pos rfl), ?_⟩
  rw [run_registerByWrites, if_neg notTaken]
  simp only [located, discovered, isBound, done, samePid]

/-- If a computation fails, what is spelled out fails with its fault, and the guidance is as it
was. -/
def Refuses (guidance : Guidance α) (computed : Except (Fault α) β)
    (ran : Except (Fault α) δ × Intake α) : Prop :=
  ∀ fault, computed = .error fault → ∃ left, ran = (.error fault, ⟨guidance, left⟩)

omit [Scalar α] in
theorem refuses_given {γ : Type} {first : Except (Fault α) γ} {next : γ → Except (Fault α) β}
    {onward : γ → Update (Intake α) α δ}
    (later : ∀ value, Refuses guidance (next value) ((onward value).run ⟨guidance, agent⟩)) :
    Refuses guidance (first >>= next)
      (ExceptT.run (given first >>= onward) (⟨guidance, agent⟩ : Intake α)) := by
  rw [run_given]
  cases first with
  | ok value => exact later value
  | error fault =>
    intro other same
    cases same
    exact ⟨agent, rfl⟩

/-- A registration that fails does so with the fault of `addAgent`, and registers nobody. -/
theorem refuses_registerByWrites : Refuses guidance (guidance.addAgent world agent complete)
    ((registerByWrites world complete).run ⟨guidance, agent⟩) := by
  unfold addAgent registerByWrites
  rw [run_get]
  dsimp only
  split
  · intro fault same
    cases same
    exact ⟨agent, rfl⟩
  · refine refuses_given fun region => refuses_given fun found => ?_
    rw [run_modify]
    refine refuses_given fun bound => ?_
    rw [run_modify, run_get]
    refine refuses_given fun exposed fault impossible => ?_
    cases impossible

omit [Scalar α] in
/-- A member that is written back as it was changes nothing. -/
theorem setMember_of_find? {pid : Int} {member : Member α}
    (isMember : guidance.members.find? pid = some member) :
    guidance.setMember pid member = guidance := by
  unfold setMember
  rw [Table.insert_of_find? isMember]

omit [Scalar α] in
/-- Entering a region that an agent can discover does not fail on the way. -/
theorem run_enterByWrites {member : Member α} {region : Region α}
    (inside : region.index < member.awareness.network.size) :
    ∃ entered, enter member region = .ok entered ∧
      (enterByWrites region).run member = (.ok ⟨⟩, entered) := by
  unfold enterByWrites
  rw [run_get]
  by_cases same : member.agent.region = some ↑region.index
  · rw [if_pos same]
    exact ⟨member, if_pos same, rfl⟩
  · rcases Awareness.discover_of_lt inside with ⟨awareness, fresh, discovered⟩
    rw [if_neg same, run_modify, run_modify, run_given, discovered]
    refine ⟨_, (if_neg same).trans ?_, rfl⟩
    rw [discovered]
    rfl

/-- A move that is spelled out comes to what `move` makes of it, where the agent sees the network of
the guidance. -/
theorem moveByWrites_eq_move (formed : guidance.network.WellFormed) {pid : Int}
    (sees : ∀ member, guidance.members.find? pid = some member →
      member.awareness.network = guidance.network) (position : Point α) (floor : Option Int) :
    guidance.moveByWrites world pid position floor = guidance.move world pid position floor := by
  unfold moveByWrites move
  cases isMember : guidance.member pid with
  | error fault => rfl
  | ok member =>
    rw [member_eq_ok_iff] at isMember
    dsimp only
    unfold relocate
    rw [run_get, run_given]
    cases located : guidance.network.regionFor world.building position
        (floor <|> member.agent.floor) with
    | error fault => exact congrArg (·, _) (setMember_of_find? isMember)
    | ok region =>
      dsimp only
      rw [run_modify, run_modify, run_bind]
      have inside := formed.region_lt_of_mem (Network.regionFor_mem located)
      let moved : Member α := { member with agent :=
        { member.agent with position, floor := floor <|> member.agent.floor } }
      have insideMoved : region.index < moved.awareness.network.size :=
        sees member isMember ▸ inside
      rcases run_enterByWrites insideMoved with ⟨entered, isEntered, ran⟩
      rw [isEntered]
      dsimp only
      rw [ran]
      dsimp only
      rw [run_get, run_given]
      cases guidance.expose world region entered.agent with
      | error fault => rfl
      | ok exposed => rfl

end Guidance

end Egress
