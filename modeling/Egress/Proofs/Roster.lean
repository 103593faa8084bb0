import Egress.Proofs.Scene
import Egress.Proofs.Writes

/-!
# Members in two tables

Guidance keeps a registered agent and what it knows as one member.  A roster keeps the agents in one
table and what they know in another, both under the agents' numbers.  Here every call that changes a
member is spelled out on the two tables, one write after another: what an agent knows is looked up
apart from the agent, just before it is needed, and what was written before a fault stands.

Nothing but the calls keeps the tables in step.  A registration writes to both of them or to none, a
removal takes a row out of each, and every other call writes only to rows that are there.  So a
roster that began empty holds what the guidance holds after the same calls, in the same order, and
no second look-up fails where the first one did not.

A call on one member is compared with its counterpart write by write: each write to a row of one of
the tables is a write to a part of the member.
-/

namespace Egress

/-- The registered agents and what they know, in separate tables. -/
structure Roster (α : Type) where
  agents : Table Int (Agent α)
  maps : Table Int (Awareness α)

namespace Roster

open Update

variable {α β δ σ γ : Type}

def empty : Roster α := ⟨∅, ∅⟩

/-- The two tables of some members. -/
def ofMembers (members : Table Int (Member α)) : Roster α where
  agents := members.mapValues fun _ member => member.agent
  maps := members.mapValues fun _ member => member.awareness

/-- What a table holds under a number, if it holds anything. -/
def held (table : Table Int β) (pid : Int) : Except (Fault α) β :=
  match table.find? pid with
  | some value => .ok value
  | none => .error (.unregistered pid)

def agentOf (pid : Int) : Update (Roster α) α (Agent α) := do
  let roster ← get
  given (held roster.agents pid)

def mapOf (pid : Int) : Update (Roster α) α (Awareness α) := do
  let roster ← get
  given (held roster.maps pid)

def setAgent (pid : Int) (agent : Agent α) : Update (Roster α) α PUnit :=
  modify fun roster => { roster with agents := roster.agents.insert pid agent }

def setMap (pid : Int) (awareness : Awareness α) : Update (Roster α) α PUnit :=
  modify fun roster => { roster with maps := roster.maps.insert pid awareness }

/-- Change an agent where it stands. -/
def amend (pid : Int) (change : Agent α → Agent α) : Update (Roster α) α PUnit := do
  let agent ← agentOf pid
  setAgent pid (change agent)

/-- Take an agent out, write by write: first what it knows, then the agent. -/
def remove (pid : Int) : Update (Roster α) α (Agent α) := do
  let agent ← agentOf pid
  let _ ← mapOf pid
  modify fun roster => { roster with maps := roster.maps.erase pid }
  modify fun roster => { roster with agents := roster.agents.erase pid }
  return agent

/-- Enter a region, write by write. -/
def enter (pid : Int) (region : Region α) : Update (Roster α) α PUnit := do
  let agent ← agentOf pid
  if agent.region = some ↑region.index then return
  else
    amend pid fun agent => match agent.region with
      | some left => agent.remember left
      | none => agent
    amend pid fun agent => { agent with region := some region.index }
    let awareness ← mapOf pid
    let (awareness, _) ← given (awareness.discover region.index)
    setMap pid awareness

section

variable [Scalar α] [Outline σ α]

/-- Register an agent, write by write.  The guidance that is given tells what all agents share. -/
def add (shared : Guidance α) (world : World α σ) (agent : Agent α) (complete : Option Bool) :
    Update (Roster α) α PUnit := do
  let roster ← get
  if roster.agents.contains agent.pid then throw (.duplicateAgent agent.pid)
  else
    let region ← given (shared.network.regionFor world.building agent.position agent.floor)
    let blank := Awareness.ofNetwork shared.network
      (complete.getD (shared.settings.value .fullKnowledge).truthy) shared.settings
    let (awareness, _) ← given (blank.discover region.index)
    let bound ← given (Guidance.historyBound shared.settings)
    let located := { agent with region := some region.index }
    let exposed ← given (shared.expose world region (located.bounded bound))
    setAgent agent.pid exposed
    setMap agent.pid awareness

/-- Move an agent, write by write. -/
def relocate (shared : Guidance α) (world : World α σ) (pid : Int) (position : Point α)
    (floor : Option Int) : Update (Roster α) α (Region α) := do
  let agent ← agentOf pid
  let region ← given (shared.network.regionFor world.building position (floor <|> agent.floor))
  amend pid fun agent => { agent with position }
  amend pid fun agent => { agent with floor := floor <|> agent.floor }
  enter pid region
  let agent ← agentOf pid
  let exposed ← given (shared.expose world region agent)
  amend pid fun _ => exposed
  return region

/-- Run a suite for the agents of some rows, one after another. -/
def runAll (suite : Suite α) (world : World α σ) :
    List (Int × Agent α) → Update (Roster α) α PUnit
  | [] => return
  | (pid, agent) :: rest => do
    let awareness ← mapOf pid
    let run := suite.run world agent awareness
    setMap pid run.awareness
    match run.escaped with
    | some fault => throw fault
    | none => runAll suite world rest

def step (suite : Suite α) (world : World α σ) : Update (Roster α) α PUnit := do
  let roster ← get
  runAll suite world roster.agents.entries

/-- The roster after a call.  What is asked of it, and what becomes of the conditions, changes
neither table. -/
def after (shared : Guidance α) (world : World α σ) (roster : Roster α) :
    Scene.Call α σ γ → Roster α
  | .add agent complete => ((add shared world agent complete).run roster).2
  | .remove pid => ((remove pid).run roster).2
  | .move pid position floor => ((relocate shared world pid position floor).run roster).2
  | .step _ => ((step shared.suite world).run roster).2
  | _ => roster

/-- The roster after the calls of some events, each made in the world that it found. -/
def follow (shared : Guidance α) (events : List (Scene.Event α σ γ)) : Roster α :=
  events.foldl (fun roster event => roster.after shared event.1.world event.2) empty

end

/-! ## Rows of members -/

variable {members : Table Int (Member α)} {pid : Int} {member : Member α}

theorem held_agents (isMember : members.find? pid = some member) :
    (held (ofMembers members).agents pid : Except (Fault α) (Agent α)) = .ok member.agent := by
  simp only [held, ofMembers, Table.find?_mapValues, isMember, Option.map_some]

theorem held_of_absent (absent : members.find? pid = none) :
    (held (ofMembers members).agents pid : Except (Fault α) (Agent α)) =
      .error (.unregistered pid) := by
  simp only [held, ofMembers, Table.find?_mapValues, absent, Option.map_none]

theorem held_maps (isMember : members.find? pid = some member) :
    (held (ofMembers members).maps pid : Except (Fault α) (Awareness α)) =
      .ok member.awareness := by
  simp only [held, ofMembers, Table.find?_mapValues, isMember, Option.map_some]

theorem run_agentOf (isMember : members.find? pid = some member)
    (next : Agent α → Update (Roster α) α β) :
    ExceptT.run (agentOf pid >>= next) (ofMembers members) =
      ExceptT.run (next member.agent) (ofMembers members) := by
  unfold agentOf
  rw [bind_assoc, run_get, run_given, held_agents isMember]

theorem run_agentOf_of_absent (absent : members.find? pid = none)
    (next : Agent α → Update (Roster α) α β) :
    ExceptT.run (agentOf pid >>= next) (ofMembers members) =
      (.error (.unregistered pid), ofMembers members) := by
  unfold agentOf
  rw [bind_assoc, run_get, run_given, held_of_absent absent]

theorem run_mapOf (isMember : members.find? pid = some member)
    (next : Awareness α → Update (Roster α) α β) :
    ExceptT.run (mapOf pid >>= next) (ofMembers members) =
      ExceptT.run (next member.awareness) (ofMembers members) := by
  unfold mapOf
  rw [bind_assoc, run_get, run_given, held_maps isMember]

theorem ofMembers_insert (members : Table Int (Member α)) (pid : Int) (member : Member α) :
    ofMembers (members.insert pid member) =
      ⟨(ofMembers members).agents.insert pid member.agent,
        (ofMembers members).maps.insert pid member.awareness⟩ := by
  simp only [ofMembers, Table.mapValues_insert]

theorem ofMembers_erase (members : Table Int (Member α)) (pid : Int) :
    ofMembers (members.erase pid) =
      ⟨(ofMembers members).agents.erase pid, (ofMembers members).maps.erase pid⟩ := by
  simp only [ofMembers, Table.mapValues_erase]

theorem contains_agents (members : Table Int (Member α)) (pid : Int) :
    (ofMembers members).agents.contains pid = members.contains pid := by
  simp only [Table.contains, ofMembers, Table.find?_mapValues, Option.isSome_map]

/-- An agent is written over by another: what it knows stays. -/
theorem insert_agent (members : Table Int (Member α)) (pid : Int) (member : Member α)
    (agent : Agent α) :
    ({ ofMembers (members.insert pid member) with
        agents := (ofMembers (members.insert pid member)).agents.insert pid agent } : Roster α) =
      ofMembers (members.insert pid { member with agent }) := by
  simp only [ofMembers_insert, Table.insert_insert]

/-- What an agent knows is written over: the agent stays. -/
theorem insert_map (members : Table Int (Member α)) (pid : Int) (member : Member α)
    (awareness : Awareness α) :
    ({ ofMembers (members.insert pid member) with
        maps := (ofMembers (members.insert pid member)).maps.insert pid awareness } : Roster α) =
      ofMembers (members.insert pid { member with awareness }) := by
  simp only [ofMembers_insert, Table.insert_insert]

/-! ## Calls on one member -/

/-- What is done to the rows of an agent comes to what is done to the member. -/
def Mirrors (members : Table Int (Member α)) (pid : Int) (action : Update (Member α) α β)
    (image : Update (Roster α) α β) (member : Member α) : Prop :=
  ExceptT.run image (ofMembers (members.insert pid member)) =
    ((ExceptT.run action member).1, ofMembers (members.insert pid (ExceptT.run action member).2))

theorem find?_insert_self : (members.insert pid member).find? pid = some member :=
  (Table.find?_insert ..).trans (if_pos rfl)

theorem mirrors_pure (value : β) : Mirrors members pid (pure value) (pure value) member := rfl

theorem mirrors_given (computed : Except (Fault α) β) :
    Mirrors members pid (given computed) (given computed) member := rfl

theorem mirrors_bind {first : Update (Member α) α β} {image : Update (Roster α) α β}
    {next : β → Update (Member α) α δ} {onward : β → Update (Roster α) α δ}
    (begins : Mirrors members pid first image member)
    (goesOn : ∀ value, Mirrors members pid (next value) (onward value)
      (ExceptT.run first member).2) :
    Mirrors members pid (first >>= next) (image >>= onward) member := by
  unfold Mirrors at begins
  unfold Mirrors
  rw [run_bind, run_bind, begins]
  cases ran : ExceptT.run first member with
  | mk result after =>
    cases result with
    | error fault => rfl
    | ok value =>
      have later := goesOn value
      rw [ran] at later
      exact later

theorem mirrors_get {next : Member α → Update (Member α) α β} {image : Update (Roster α) α β}
    (goesOn : Mirrors members pid (next member) image member) :
    Mirrors members pid (get >>= next) image member :=
  goesOn

theorem mirrors_agentOf {action : Update (Member α) α β} {onward : Agent α → Update (Roster α) α β}
    (goesOn : Mirrors members pid action (onward member.agent) member) :
    Mirrors members pid action (agentOf pid >>= onward) member :=
  (run_agentOf find?_insert_self onward).trans goesOn

theorem mirrors_mapOf {action : Update (Member α) α β}
    {onward : Awareness α → Update (Roster α) α β}
    (goesOn : Mirrors members pid action (onward member.awareness) member) :
    Mirrors members pid action (mapOf pid >>= onward) member :=
  (run_mapOf find?_insert_self onward).trans goesOn

theorem mirrors_amend (change : Agent α → Agent α) :
    Mirrors members pid (modify fun member => { member with agent := change member.agent })
      (amend pid change) member := by
  refine mirrors_agentOf ?_
  exact congrArg (Prod.mk (Except.ok PUnit.unit)) (insert_agent members pid member _)

theorem mirrors_setMap (awareness : Awareness α) :
    Mirrors members pid (modify fun member => { member with awareness }) (setMap pid awareness)
      member :=
  congrArg (Prod.mk (Except.ok PUnit.unit)) (insert_map members pid member _)

theorem mirrors_enter (region : Region α) :
    Mirrors members pid (Guidance.enterByWrites region) (enter pid region) member := by
  unfold Guidance.enterByWrites enter
  refine mirrors_get (mirrors_agentOf ?_)
  split
  · exact mirrors_pure _
  · refine mirrors_bind (mirrors_amend fun agent => match agent.region with
      | some left => agent.remember left
      | none => agent) fun _ => ?_
    refine mirrors_bind (mirrors_amend fun agent => { agent with region := some region.index })
      fun _ => ?_
    -- The map is looked up only here; the writes before this one were to the agent.
    refine mirrors_mapOf (mirrors_bind (mirrors_given _) fun found => ?_)
    exact mirrors_setMap found.1

variable [Scalar α] [Outline σ α] {guidance : Guidance α} {world : World α σ}

theorem mirrors_relocate (position : Point α) (floor : Option Int) :
    Mirrors members pid (guidance.relocate world position floor)
      (relocate guidance world pid position floor) member := by
  unfold Guidance.relocate relocate
  refine mirrors_get (mirrors_agentOf (mirrors_bind (mirrors_given _) fun region => ?_))
  refine mirrors_bind (mirrors_amend fun agent => { agent with position }) fun _ => ?_
  refine mirrors_bind
    (mirrors_amend fun agent => { agent with floor := floor <|> agent.floor }) fun _ => ?_
  refine mirrors_bind (mirrors_enter region) fun _ => ?_
  refine mirrors_get (mirrors_agentOf (mirrors_bind (mirrors_given _) fun exposed => ?_))
  exact mirrors_bind (mirrors_amend fun _ => exposed) fun _ => mirrors_pure region

/-! ## Calls -/

omit [Scalar α] [Outline σ α] in
theorem run_remove (pid : Int) :
    (remove pid).run (ofMembers guidance.members) =
      match guidance.removeAgent pid with
      | .ok (agent, after) => (.ok agent, ofMembers after.members)
      | .error fault => (.error fault, ofMembers guidance.members) := by
  unfold remove Guidance.removeAgent Guidance.member
  cases isMember : guidance.members.find? pid with
  | none => rw [run_agentOf_of_absent isMember]; rfl
  | some member =>
    rw [run_agentOf isMember, run_mapOf isMember, run_modify, run_modify]
    exact congrArg (Prod.mk (Except.ok member.agent)) (ofMembers_erase guidance.members pid).symm

/-- A move on the roster is the move that is spelled out for the member. -/
theorem run_relocate (pid : Int) (position : Point α) (floor : Option Int) :
    (relocate guidance world pid position floor).run (ofMembers guidance.members) =
      ((guidance.moveByWrites world pid position floor).2,
        ofMembers (guidance.moveByWrites world pid position floor).1.members) := by
  unfold Guidance.moveByWrites Guidance.member
  cases isMember : guidance.members.find? pid with
  | none => exact run_agentOf_of_absent isMember _
  | some member =>
    have mirrored : Mirrors guidance.members pid (guidance.relocate world position floor)
        (relocate guidance world pid position floor) member :=
      mirrors_relocate position floor
    unfold Mirrors at mirrored
    rw [Table.insert_of_find? isMember] at mirrored
    exact mirrored

/-- A computation that fails is reported and leaves the members; otherwise those that it gives are
in the two tables. -/
def Settles (guidance : Guidance α) (computed : Except (Fault α) (Guidance α))
    (ran : Except (Fault α) PUnit × Roster α) : Prop :=
  ran = match computed with
    | .ok after => (.ok ⟨⟩, ofMembers after.members)
    | .error fault => (.error fault, ofMembers guidance.members)

omit [Scalar α] in
theorem settles_given {first : Except (Fault α) β} {next : β → Except (Fault α) (Guidance α)}
    {onward : β → Update (Roster α) α PUnit}
    (later : ∀ value, first = .ok value →
      Settles guidance (next value) ((onward value).run (ofMembers guidance.members))) :
    Settles guidance (first >>= next)
      (ExceptT.run (given first >>= onward) (ofMembers guidance.members)) := by
  rw [run_given]
  cases first with
  | ok value => exact later value rfl
  | error fault => rfl

/-- A registration writes to both tables or to none. -/
theorem settles_add (agent : Agent α) (complete : Option Bool) :
    Settles guidance (guidance.addAgent world agent complete)
      ((add guidance world agent complete).run (ofMembers guidance.members)) := by
  unfold add Guidance.addAgent
  rw [run_get, contains_agents]
  split
  · rfl
  · refine settles_given fun region _ => settles_given fun found _ => ?_
    refine settles_given fun bound _ => settles_given fun exposed done => ?_
    have samePid : exposed.pid = agent.pid := by
      rw [Guidance.expose_eq done]
      rfl
    unfold Settles setAgent setMap
    rw [run_modify, samePid]
    exact congrArg (Prod.mk (Except.ok PUnit.unit))
      (ofMembers_insert guidance.members agent.pid ⟨exposed, found.1⟩).symm

/-- What is left to be told when a call ends. -/
def ended : Option (Fault α) → Except (Fault α) PUnit
  | none => .ok ⟨⟩
  | some fault => .error fault

/-- A suite that is run for the agents of some rows does what the guidance does with it for the
members. -/
theorem run_runAll (time : Value α) {rows : List (Int × Agent α)}
    (listed : ∀ row ∈ rows, (ofMembers guidance.members).agents.find? row.1 = some row.2) :
    (runAll guidance.suite world rows).run (ofMembers guidance.members) =
      (ended (Guidance.stepAll world time guidance (rows.map Prod.fst)).2.escaped,
        ofMembers (Guidance.stepAll world time guidance (rows.map Prod.fst)).1.members) := by
  induction rows generalizing guidance with
  | nil => rfl
  | cons row rest hypothesis =>
    rcases row with ⟨pid, agent⟩
    have isAgent := listed (pid, agent) List.mem_cons_self
    rw [ofMembers, Table.find?_mapValues, Option.map_eq_some_iff] at isAgent
    rcases isAgent with ⟨member, isMember, rfl⟩
    let entered := guidance.setMember pid (Guidance.ran guidance.suite world member)
    have written : ({ ofMembers guidance.members with
        maps := (ofMembers guidance.members).maps.insert pid
          (guidance.suite.run world member.agent member.awareness).awareness } : Roster α) =
        ofMembers entered.members := by
      have mapped := insert_map guidance.members pid member
        (guidance.suite.run world member.agent member.awareness).awareness
      rw [Table.insert_of_find? isMember] at mapped
      exact mapped
    -- The suite writes to the maps only, so the rows that follow are still those of the agents.
    have onward : ∀ row ∈ rest, (ofMembers entered.members).agents.find? row.1 = some row.2 := by
      intro row isRow
      rw [← written]
      exact listed row (List.mem_cons_of_mem _ isRow)
    simp only [runAll, List.map_cons, Guidance.stepAll, isMember]
    rw [run_mapOf isMember]
    unfold setMap
    rw [run_modify, written]
    cases (guidance.suite.run world member.agent member.awareness).escaped with
    | some fault => rfl
    | none => exact hypothesis onward

theorem run_step (time : Value α) :
    (step guidance.suite world).run (ofMembers guidance.members) =
      (ended (guidance.step world time).2.escaped,
        ofMembers (guidance.step world time).1.members) := by
  have keys : (ofMembers guidance.members).agents.entries.map Prod.fst = guidance.members.keys :=
    Table.keys_mapValues _ _
  have listed : ∀ row ∈ (ofMembers guidance.members).agents.entries,
      (ofMembers guidance.members).agents.find? row.1 = some row.2 :=
    fun row isRow => Table.find?_eq_some_iff.mpr isRow
  unfold step Guidance.step
  rw [run_get, ← keys]
  exact run_runAll time listed

/-! ## Runs -/

/-- Of the guidance that is given, the members are not read. -/
theorem after_of_sameFrame {shared : Guidance α} (frame : shared.SameFrame guidance)
    (roster : Roster α) (call : Scene.Call α σ γ) :
    roster.after shared world call = roster.after guidance world call := by
  rcases shared with ⟨network, suite, field, settings, members⟩
  rcases guidance with ⟨_, _, _, _, others⟩
  rcases frame with ⟨rfl, rfl, rfl, rfl⟩
  cases call <;> rfl

omit [Scalar α] [Outline σ α] in
/-- A call on an outbreak leaves the guidance as it was. -/
theorem guidance_attempt (scene : Scene α σ γ) (field : Nat)
    (made : Except (Fault α) (Outbreak α γ)) :
    (scene.attempt (made >>= fun outbreak => .ok (scene.withField field outbreak))).1.guidance =
      scene.guidance := by
  cases made <;> rfl

variable [RandomSource γ α] {scene : Scene α σ γ}

/-- Tables that hold the members before a call hold them after it. -/
theorem after_ofMembers (formed : scene.guidance.network.WellFormed)
    (sees : ∀ pid member, scene.guidance.members.find? pid = some member →
      member.awareness.network = scene.guidance.network) (call : Scene.Call α σ γ) :
    (ofMembers scene.guidance.members).after scene.guidance scene.world call =
      ofMembers (scene.perform call).1.guidance.members := by
  cases call with
  | add agent complete =>
    rw [after, settles_add agent complete, Scene.perform]
    cases scene.guidance.addAgent scene.world agent complete <;> rfl
  | remove pid =>
    rw [after, run_remove, Scene.perform]
    cases scene.guidance.removeAgent pid <;> rfl
  | move pid position floor =>
    rw [after, run_relocate, Guidance.moveByWrites_eq_move formed (sees pid)]
    rfl
  | step time => exact congrArg Prod.snd (run_step time)
  | ignite field reference density =>
    exact congrArg (ofMembers ∘ Guidance.members) (guidance_attempt scene field _).symm
  | block field reference =>
    exact congrArg (ofMembers ∘ Guidance.members) (guidance_attempt scene field _).symm
  | unblock field reference =>
    exact congrArg (ofMembers ∘ Guidance.members) (guidance_attempt scene field _).symm
  | nextHop | frontier | spread | reset | reseed => rfl

/-- A roster that began empty holds what the guidance holds after the same calls, whether they
succeeded or failed. -/
theorem follow_events {start : Scene α σ γ} (blank : start.guidance.members = ∅)
    (formed : start.guidance.network.WellFormed) (calls : List (Scene.Call α σ γ)) :
    follow start.guidance (start.events calls) =
      ofMembers (start.run calls).guidance.members := by
  induction calls using List.reverseRecOn with
  | nil =>
    rw [Scene.run, List.foldl_nil, blank]
    rfl
  | append_singleton calls call hypothesis =>
    have consistent := (start.follows_run calls).reachable.consistent blank
    rcases consistent.frame with ⟨network, -⟩
    have sees : ∀ pid member, (start.run calls).guidance.members.find? pid = some member →
        member.awareness.network = (start.run calls).guidance.network := by
      intro pid member isMember
      rcases (consistent.placed pid member isMember).grown with ⟨complete, grown⟩
      rw [network]
      exact grown.network
    unfold follow at hypothesis
    rw [Scene.events_append_singleton, follow, List.foldl_append, hypothesis, List.foldl_cons,
      List.foldl_nil, after_of_sameFrame consistent.frame, Scene.run_append_singleton]
    exact after_ofMembers (network.symm ▸ formed) sees call

end Roster

end Egress
