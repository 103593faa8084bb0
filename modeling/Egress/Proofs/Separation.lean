import Egress.Proofs.Members
import Egress.Proofs.Table

/-!
# Agents do not interfere

Agents share the building, the network, the suite of sensors and the conditions, and no call for one
of them changes any of these.  So what becomes of an agent, and every answer that it gets, does not
depend on which other agents come, move and leave.

Two scenes are alike for an agent if they agree on all that is shared and on the agent's entry, and
the second holds no other agent.  A call that is not about another agent keeps scenes alike and is
answered alike in both; a call about another agent changes nothing in the first that the agent could
notice.  A step runs the suite for every agent in turn, and a run for one agent reads and writes
nothing but its own entry.  Only a fault that ends a step could come between, so no step may let one
out.
-/

namespace Egress

variable {α σ γ : Type} [Scalar α]

namespace Guidance

/-- Two states differ at most in members other than one. -/
structure Alike (pid : Int) (first second : Guidance α) : Prop where
  frame : first.SameFrame second
  found : second.members.find? pid = first.members.find? pid

variable {first second : Guidance α} {pid : Int}

omit [Scalar α] in
theorem Alike.symm (alike : Alike pid first second) : Alike pid second first :=
  ⟨⟨alike.frame.1.symm, alike.frame.2.1.symm, alike.frame.2.2.1.symm, alike.frame.2.2.2.symm⟩,
    alike.found.symm⟩

omit [Scalar α] in
theorem Alike.trans {third : Guidance α} (earlier : Alike pid first second)
    (later : Alike pid second third) : Alike pid first third :=
  ⟨earlier.frame.trans later.frame, later.found.trans earlier.found⟩

omit [Scalar α] in
theorem Alike.setMember (alike : Alike pid first second) (member : Member α) :
    Alike pid (first.setMember pid member) (second.setMember pid member) := by
  refine ⟨alike.frame, ?_⟩
  rw [find?_setMember, find?_setMember, if_pos rfl, if_pos rfl]

omit [Scalar α] in
/-- Changing another member goes unnoticed. -/
theorem alike_setMember (guidance : Guidance α) {other : Int} (different : other ≠ pid)
    (member : Member α) : Alike pid guidance (guidance.setMember other member) := by
  refine ⟨.refl guidance, ?_⟩
  rw [find?_setMember, if_neg different]

omit [Scalar α] in
theorem Alike.member (alike : Alike pid first second) : second.member pid = first.member pid := by
  rw [Guidance.member, Guidance.member, alike.found]

omit [Scalar α] in
/-- An agent is removed from both states, or is in neither. -/
theorem Alike.removeAgent (alike : Alike pid first second) :
    (∃ fault, first.removeAgent pid = .error fault ∧ second.removeAgent pid = .error fault) ∨
    ∃ agent, first.removeAgent pid =
        .ok (agent, { first with members := first.members.erase pid }) ∧
      second.removeAgent pid =
        .ok (agent, { second with members := second.members.erase pid }) := by
  rw [Guidance.removeAgent, Guidance.removeAgent, alike.member]
  cases first.member pid with
  | error fault => exact Or.inl ⟨fault, rfl, rfl⟩
  | ok member => exact Or.inr ⟨member.agent, rfl, rfl⟩

variable [Outline σ α] {world : World α σ}

omit [Outline σ α] in
/-- What an agent is exposed to does not depend on the members. -/
theorem Alike.expose (alike : Alike pid first second) (world : World α σ) (region : Region α)
    (agent : Agent α) : second.expose world region agent = first.expose world region agent := by
  rw [Guidance.expose, Guidance.expose, alike.frame.2.2.1]

/-- An agent is registered with the same entry in both states, or in neither. -/
theorem Alike.addAgent {agent : Agent α} (alike : Alike agent.pid first second)
    (world : World α σ) (complete : Option Bool) :
    (∃ fault, first.addAgent world agent complete = .error fault ∧
      second.addAgent world agent complete = .error fault) ∨
    ∃ member, first.addAgent world agent complete = .ok (first.setMember agent.pid member) ∧
      second.addAgent world agent complete = .ok (second.setMember agent.pid member) := by
  rcases alike.frame with ⟨network, -, -, settings⟩
  have contains : second.members.contains agent.pid = first.members.contains agent.pid := by
    rw [Table.contains, Table.contains, alike.found]
  simp only [Guidance.addAgent, contains, network, settings, alike.expose]
  by_cases present : first.members.contains agent.pid = true
  · rw [if_pos present, if_pos present]
    exact Or.inl ⟨_, rfl, rfl⟩
  · rw [if_neg present, if_neg present]
    cases first.network.regionFor world.building agent.position agent.floor with
    | error fault => exact Or.inl ⟨fault, rfl, rfl⟩
    | ok region =>
      simp only [bind, Except.bind]
      cases (Awareness.ofNetwork first.network
          (complete.getD (first.settings.value .fullKnowledge).truthy)
          first.settings).discover region.index with
      | error fault => exact Or.inl ⟨fault, rfl, rfl⟩
      | ok discovered =>
        dsimp only
        cases historyBound first.settings with
        | error fault => exact Or.inl ⟨fault, rfl, rfl⟩
        | ok bound =>
          dsimp only
          cases done : first.expose world region
              (({ agent with region := some ↑region.index } : Agent α).bounded bound) with
          | error fault => exact Or.inl ⟨fault, rfl, rfl⟩
          | ok exposed =>
            have samePid : exposed.pid = agent.pid := by
              rw [expose_eq done]
              rfl
            refine Or.inr ⟨⟨exposed, discovered.1⟩, ?_, ?_⟩
            · rw [← samePid]
              rfl
            · rw [← samePid]
              rfl

/-- An agent is moved to the same entry in both states, or in neither, with the same answer. -/
theorem Alike.move (alike : Alike pid first second) (world : World α σ) (position : Point α)
    (floor : Option Int) :
    (∃ answer, first.move world pid position floor = (first, answer) ∧
      second.move world pid position floor = (second, answer)) ∨
    ∃ member answer, first.move world pid position floor = (first.setMember pid member, answer) ∧
      second.move world pid position floor = (second.setMember pid member, answer) := by
  simp only [Guidance.move, alike.member, alike.frame.1, alike.expose]
  cases first.member pid with
  | error fault => exact Or.inl ⟨_, rfl, rfl⟩
  | ok member =>
    dsimp only
    cases first.network.regionFor world.building position (floor <|> member.agent.floor) with
    | error fault => exact Or.inl ⟨_, rfl, rfl⟩
    | ok region =>
      dsimp only
      cases enter { member with agent :=
          { member.agent with position, floor := floor <|> member.agent.floor } } region with
      | error fault => exact Or.inl ⟨_, rfl, rfl⟩
      | ok entered =>
        dsimp only
        cases first.expose world region entered.agent with
        | error fault => exact Or.inr ⟨_, _, rfl, rfl⟩
        | ok agent => exact Or.inr ⟨_, _, rfl, rfl⟩

/-! ## Steps for one agent -/

/-- What a step reports of one agent. -/
def failuresOf (pid : Int) (report : StepReport α) : List (Int × List (String × Fault α)) :=
  report.failures.filter fun entry => decide (entry.1 = pid)

/-- What there is to report of an agent after a run for it alone. -/
def ownFailures (suite : Suite α) (world : World α σ) (pid : Int) :
    Option (Member α) → List (Int × List (String × Fault α))
  | none => []
  | some member =>
    let failures := (suite.run world member.agent member.awareness).failures
    if failures.isEmpty then [] else [(pid, failures)]

/-- A run for a member that ends of itself. -/
def Settles (suite : Suite α) (world : World α σ) (member : Member α) : Prop :=
  (suite.run world member.agent member.awareness).escaped = none

variable {guidance : Guidance α} {time : Value α} {pids : List Int}

/-- A step goes on after an agent whose run ends of itself, and ends at any other. -/
theorem stepAll_cons (world : World α σ) (time : Value α) {member : Member α}
    (found : guidance.members.find? pid = some member) (rest : List Int) :
    (¬ Settles guidance.suite world member ∧
      (stepAll world time guidance (pid :: rest)).2.escaped ≠ none) ∨
    Settles guidance.suite world member ∧
      (stepAll world time guidance (pid :: rest)).1 =
        (stepAll world time (guidance.setMember pid (ran guidance.suite world member)) rest).1 ∧
      (stepAll world time guidance (pid :: rest)).2.escaped =
        (stepAll world time
          (guidance.setMember pid (ran guidance.suite world member)) rest).2.escaped ∧
      (stepAll world time guidance (pid :: rest)).2.failures =
        ownFailures guidance.suite world pid (some member) ++
        (stepAll world time
          (guidance.setMember pid (ran guidance.suite world member)) rest).2.failures := by
  unfold Settles
  simp only [stepAll, found]
  cases ended : (guidance.suite.run world member.agent member.awareness).escaped with
  | some fault => exact Or.inl ⟨by rintro ⟨⟩, by rintro ⟨⟩⟩
  | none =>
    refine Or.inr ⟨rfl, rfl, rfl, ?_⟩
    dsimp only [ownFailures]
    split
    · rfl
    · rfl

theorem stepAll_contained_iff (distinct : pids.Nodup) :
    (stepAll world time guidance pids).2.escaped = none ↔
      ∀ pid ∈ pids, ∀ member ∈ guidance.members.find? pid,
        Settles guidance.suite world member := by
  induction pids generalizing guidance with
  | nil => simp [stepAll]
  | cons first rest hypothesis =>
    rw [List.nodup_cons] at distinct
    rw [List.forall_mem_cons]
    cases found : guidance.members.find? first with
    | none => simp [stepAll, found, hypothesis distinct.2]
    | some member =>
      rcases stepAll_cons world time found rest with
        ⟨escapes, ended⟩ | ⟨settles, -, ended, -⟩
      · constructor
        · exact fun impossible => absurd impossible ended
        · exact fun both => absurd (both.1 member rfl) escapes
      · rw [ended, hypothesis distinct.2]
        have untouched : ∀ pid ∈ rest,
            (guidance.setMember first (ran guidance.suite world member)).members.find? pid =
              guidance.members.find? pid := by
          intro pid isLater
          rw [find?_setMember, if_neg]
          rintro rfl
          exact distinct.1 isLater
        constructor
        · intro later
          refine ⟨?_, fun pid isLater => untouched pid isLater ▸ later pid isLater⟩
          rintro same ⟨⟩
          exact settles
        · exact fun both pid isLater => (untouched pid isLater).symm ▸ both.2 pid isLater

/-- A step that no fault ends does for each agent of its list what a run for it alone does. -/
theorem stepAll_own (distinct : pids.Nodup)
    (contained : (stepAll world time guidance pids).2.escaped = none) (pid : Int) :
    (stepAll world time guidance pids).1.members.find? pid =
        (if pid ∈ pids then (guidance.members.find? pid).map (ran guidance.suite world)
          else guidance.members.find? pid) ∧
      failuresOf pid (stepAll world time guidance pids).2 =
        if pid ∈ pids then ownFailures guidance.suite world pid (guidance.members.find? pid)
        else [] := by
  induction pids generalizing guidance with
  | nil => exact ⟨rfl, rfl⟩
  | cons first rest hypothesis =>
    rw [List.nodup_cons] at distinct
    cases found : guidance.members.find? first with
    | none =>
      simp only [stepAll, found] at contained ⊢
      rcases hypothesis distinct.2 contained with ⟨left, reported⟩
      by_cases same : pid = first
      · subst same
        rw [left, reported, if_neg distinct.1, if_neg distinct.1, if_pos List.mem_cons_self,
          if_pos List.mem_cons_self, found]
        exact ⟨rfl, rfl⟩
      · simpa [same] using And.intro left reported
    | some member =>
      rcases stepAll_cons world time found rest with
        ⟨-, ended⟩ | ⟨-, after, ended, failures⟩
      · exact absurd contained ended
      · rw [ended] at contained
        rcases hypothesis distinct.2 contained with ⟨left, reported⟩
        have parted : failuresOf pid (stepAll world time guidance (first :: rest)).2 =
            (ownFailures guidance.suite world first (some member)).filter
              (fun entry => decide (entry.1 = pid)) ++
            failuresOf pid (stepAll world time
              (guidance.setMember first (ran guidance.suite world member)) rest).2 := by
          rw [failuresOf, failures, List.filter_append, failuresOf]
        have ownOnly : (ownFailures guidance.suite world first (some member)).filter
            (fun entry => decide (entry.1 = pid)) =
            if first = pid then ownFailures guidance.suite world first (some member) else [] := by
          dsimp only [ownFailures]
          split
          · split <;> rfl
          · by_cases same : first = pid <;> simp [same]
        rw [after, left, parted, reported, ownOnly, find?_setMember]
        by_cases same : first = pid
        · subst same
          simp [distinct.1, found]
        · have suite : (guidance.setMember first (ran guidance.suite world member)).suite =
              guidance.suite := rfl
          simp [same, Ne.symm same, suite]

theorem step_contained_iff :
    (guidance.step world time).2.escaped = none ↔
      ∀ pid, ∀ member ∈ guidance.members.find? pid, Settles guidance.suite world member := by
  rw [step, stepAll_contained_iff guidance.members.keys_nodup]
  constructor
  · intro settles pid member found
    exact settles pid (Table.mem_keys_iff.mpr ⟨member, found⟩) member found
  · exact fun settles pid _ => settles pid

/-- A step that no fault ends does for each agent what a run for it alone does. -/
theorem step_own (contained : (guidance.step world time).2.escaped = none) (pid : Int) :
    (guidance.step world time).1.members.find? pid =
        (guidance.members.find? pid).map (ran guidance.suite world) ∧
      failuresOf pid (guidance.step world time).2 =
        ownFailures guidance.suite world pid (guidance.members.find? pid) := by
  rcases stepAll_own guidance.members.keys_nodup contained pid with ⟨left, reported⟩
  rw [step, left, reported]
  by_cases isKey : pid ∈ guidance.members.keys
  · rw [if_pos isKey, if_pos isKey]
    exact ⟨rfl, rfl⟩
  · rw [if_neg isKey, if_neg isKey, (Table.find?_eq_none_iff _ _).mpr isKey]
    exact ⟨rfl, rfl⟩

/-! ## Questions of one agent -/

/-- The next hop of an agent depends on the network, the settings and its own entry. -/
theorem Alike.nextHop (alike : Alike pid first second) (building : Building α σ)
    (target : Target α σ) (time : Value α) :
    second.nextHop building pid target time = first.nextHop building pid target time := by
  have resolves : ∀ floor, second.resolve building floor target =
      first.resolve building floor target := by
    intro floor
    cases target with
    | region region => rfl
    | named id | goal goal | index reference => simp only [resolve, alike.frame.1]
  simp only [Guidance.nextHop, alike.member, alike.frame.2.2.2, resolves]

omit [Outline σ α] in
theorem Alike.frontier (alike : Alike pid first second) :
    second.frontier pid = first.frontier pid := by
  simp only [Guidance.frontier, alike.member]

end Guidance

namespace Scene

/-- The call brings, takes away or moves an agent other than a given one. -/
def Call.isForeign (pid : Int) : Call α σ γ → Bool
  | .add agent _ => agent.pid != pid
  | .remove other => other != pid
  | .move other _ _ => other != pid
  | .step _ | .nextHop _ _ _ | .frontier _ | .ignite _ _ _ | .spread _ | .block _ _
  | .unblock _ _ | .reset _ | .reseed _ _ => false

/-- What an agent may come to see of a call: how it ended for the agent, and the agent's part of the
result. -/
inductive Reply (α : Type) where
  | added (fault : Option (Fault α))
  | removed (answer : Except (Fault α) (Agent α))
  | moved (answer : Except (Fault α) (Region α))
  | stepped (failures : List (Int × List (String × Fault α))) (escaped : Option (Fault α))
  | hop (answer : Except (Fault α) (Hop α))
  | frontier (answer : Except (Fault α) (List (Region α)))

variable [Outline σ α] [RandomSource γ α]

/-- What an agent sees of a call. -/
def reply (pid : Int) (scene : Scene α σ γ) : Call α σ γ → Option (Reply α)
  | .add agent complete =>
    if agent.pid = pid then some (.added (scene.perform (.add agent complete)).2) else none
  | .remove other =>
    if other = pid then some (.removed ((scene.guidance.removeAgent pid).map Prod.fst)) else none
  | .move other position floor =>
    if other = pid then some (.moved (scene.guidance.move scene.world pid position floor).2)
    else none
  | .step time =>
    let report := (scene.guidance.step scene.world time).2
    some (.stepped (Guidance.failuresOf pid report) report.escaped)
  | .nextHop other target time =>
    if other = pid then some (.hop (scene.guidance.nextHop scene.building pid target time).1)
    else none
  | .frontier other => if other = pid then some (.frontier (scene.guidance.frontier pid)) else none
  | .ignite _ _ _ | .spread _ | .block _ _ | .unblock _ _ | .reset _ | .reseed _ _ => none

/-- The course of events as an agent sees it: for each call that is not about another agent, the
reply to it and the agent's entry after it. -/
def course (pid : Int) (scene : Scene α σ γ) :
    List (Call α σ γ) → List (Option (Reply α) × Option (Member α))
  | [] => []
  | call :: rest =>
    let after := (scene.perform call).1
    if call.isForeign pid then course pid after rest
    else (scene.reply pid call, after.guidance.members.find? pid) :: course pid after rest

/-- Two scenes are alike for an agent, and the second holds no other agent. -/
structure Alike (pid : Int) (full lean : Scene α σ γ) : Prop where
  building : lean.building = full.building
  fields : lean.fields = full.fields
  guidance : full.guidance.Alike pid lean.guidance
  alone : ∀ other, other ≠ pid → lean.guidance.members.find? other = none

variable {pid : Int} {full lean : Scene α σ γ} {call : Call α σ γ}

omit [Scalar α] [Outline σ α] [RandomSource γ α] in
/-- Scenes stay alike if the guidance of the first changes unnoticed. -/
theorem Alike.unnoticed (alike : Alike pid full lean) {guidance : Guidance α}
    (changed : full.guidance.Alike pid guidance) : Alike pid { full with guidance } lean :=
  ⟨alike.building, alike.fields, changed.symm.trans alike.guidance, alike.alone⟩

/-- A call about another agent goes unnoticed. -/
theorem Alike.perform_foreign (alike : Alike pid full lean) (foreign : call.isForeign pid = true) :
    Alike pid (full.perform call).1 lean := by
  cases call with
  | add agent complete =>
    have different : agent.pid ≠ pid := bne_iff_ne.mp foreign
    cases added : full.guidance.addAgent full.world agent complete with
    | error fault =>
      simp only [Scene.perform, added]
      exact alike
    | ok guidance =>
      simp only [Scene.perform, added]
      rcases Guidance.addAgent_eq_ok added with ⟨_, _, _, _, _, _, _, _, _, _, rfl⟩
      exact alike.unnoticed (full.guidance.alike_setMember different _)
  | remove other =>
    have different : other ≠ pid := bne_iff_ne.mp foreign
    cases removed : full.guidance.removeAgent other with
    | error fault =>
      simp only [Scene.perform, removed]
      exact alike
    | ok result =>
      simp only [Scene.perform, removed]
      rcases bind_eq_ok.mp removed with ⟨member, -, same⟩
      cases same
      refine alike.unnoticed ⟨.refl _, ?_⟩
      exact (Table.find?_erase _ _ _).trans (if_neg different)
  | move other position floor =>
    have different : other ≠ pid := bne_iff_ne.mp foreign
    have changed : full.guidance.Alike pid
        (full.guidance.move full.world other position floor).1 := by
      rcases Guidance.move_cases full.guidance full.world other position floor with same |
        ⟨_, _, entered, flags, -, -, -, moved⟩
      · rw [same]
        exact ⟨.refl _, rfl⟩
      · rw [moved]
        exact full.guidance.alike_setMember different _
    exact alike.unnoticed changed
  | step _ | nextHop _ _ _ | frontier _ | ignite _ _ _ | spread _ | block _ _ | unblock _ _
  | reset _ | reseed _ _ => cases foreign

omit [Scalar α] [Outline σ α] [RandomSource γ α] in
/-- Scenes stay alike if both change the agent's entry to the same. -/
theorem Alike.setMember (alike : Alike pid full lean) (member : Member α) :
    Alike pid { full with guidance := full.guidance.setMember pid member }
      { lean with guidance := lean.guidance.setMember pid member } := by
  refine ⟨alike.building, alike.fields, alike.guidance.setMember member, ?_⟩
  intro other different
  rw [Guidance.find?_setMember, if_neg different.symm]
  exact alike.alone other different

omit [Scalar α] [Outline σ α] [RandomSource γ α] in
theorem Alike.world (alike : Alike pid full lean) : lean.world = full.world := by
  rw [Scene.world, Scene.world, alike.building, alike.fields]

omit [Scalar α] [Outline σ α] [RandomSource γ α] in
theorem Alike.withField (alike : Alike pid full lean) (field : Nat) (outbreak : Outbreak α γ) :
    Alike pid (full.withField field outbreak) (lean.withField field outbreak) := by
  refine ⟨alike.building, ?_, alike.guidance, alike.alone⟩
  rw [Scene.withField, Scene.withField, alike.fields]

omit [Scalar α] [Outline σ α] [RandomSource γ α] in
/-- Scenes stay alike if both try the same on an outbreak. -/
theorem Alike.attempt (alike : Alike pid full lean) (field : Nat)
    (made : Except (Fault α) (Outbreak α γ)) :
    Alike pid (full.attempt (made.bind fun outbreak => .ok (full.withField field outbreak))).1
      (lean.attempt (made.bind fun outbreak => .ok (lean.withField field outbreak))).1 := by
  cases made with
  | error fault => exact alike
  | ok outbreak => exact alike.withField field outbreak

omit [RandomSource γ α] in
/-- A step is seen alike, if no fault ends it in the first scene. -/
theorem Alike.step (alike : Alike pid full lean) {time : Value α}
    (contained : (full.guidance.step full.world time).2.escaped = none) :
    (lean.guidance.step full.world time).2.escaped = none ∧
      Guidance.failuresOf pid (lean.guidance.step full.world time).2 =
        Guidance.failuresOf pid (full.guidance.step full.world time).2 ∧
      Alike pid { full with guidance := (full.guidance.step full.world time).1 }
        { lean with guidance := (lean.guidance.step full.world time).1 } := by
  have suite : lean.guidance.suite = full.guidance.suite := alike.guidance.frame.2.1
  have alsoContained : (lean.guidance.step full.world time).2.escaped = none := by
    refine Guidance.step_contained_iff.mpr fun other member found => ?_
    rcases eq_or_ne other pid with rfl | different
    · rw [alike.guidance.found] at found
      rw [suite]
      exact Guidance.step_contained_iff.mp contained other member found
    · rw [alike.alone other different] at found
      cases found
  rcases Guidance.step_own contained pid with ⟨left, reported⟩
  rcases Guidance.step_own alsoContained pid with ⟨alsoLeft, alsoReported⟩
  refine ⟨alsoContained, ?_, alike.building, alike.fields, ⟨?_, ?_⟩, ?_⟩
  · rw [alsoReported, reported, suite, alike.guidance.found]
  · have before := (full.guidance.step_frame full.world time)
    have after := (lean.guidance.step_frame full.world time)
    exact ⟨after.1.trans (alike.guidance.frame.1.trans before.1.symm),
      after.2.1.trans (suite.trans before.2.1.symm),
      after.2.2.1.trans (alike.guidance.frame.2.2.1.trans before.2.2.1.symm),
      after.2.2.2.trans (alike.guidance.frame.2.2.2.trans before.2.2.2.symm)⟩
  · rw [left, alsoLeft, suite, alike.guidance.found]
  · intro other different
    rw [(Guidance.step_own alsoContained other).1, alike.alone other different]
    rfl

/-- A call that is not about another agent is answered alike and keeps scenes alike. -/
theorem Alike.perform (alike : Alike pid full lean) (own : call.isForeign pid = false)
    (contained : ∀ time, call = .step time → (full.perform call).2 = none) :
    lean.reply pid call = full.reply pid call ∧
      Alike pid (full.perform call).1 (lean.perform call).1 := by
  cases call with
  | add agent complete =>
    have same : agent.pid = pid := by simpa [Call.isForeign] using own
    subst same
    rcases alike.guidance.addAgent full.world complete with
      ⟨fault, failed, alsoFailed⟩ | ⟨member, added, alsoAdded⟩
    · simp only [reply, Scene.perform, alike.world, failed, alsoFailed]
      exact ⟨rfl, alike⟩
    · simp only [reply, Scene.perform, alike.world, added, alsoAdded]
      exact ⟨rfl, alike.setMember member⟩
  | remove other =>
    have same : other = pid := by simpa [Call.isForeign] using own
    subst same
    rcases alike.guidance.removeAgent with
      ⟨fault, failed, alsoFailed⟩ | ⟨agent, removed, alsoRemoved⟩
    · simp only [reply, Scene.perform, failed, alsoFailed]
      exact ⟨trivial, alike⟩
    · simp only [reply, Scene.perform, removed, alsoRemoved]
      refine ⟨rfl, alike.building, alike.fields, ⟨alike.guidance.frame, ?_⟩, ?_⟩
      · exact (Table.find?_erase _ _ _).trans
          ((if_pos rfl).trans ((Table.find?_erase _ _ _).trans (if_pos rfl)).symm)
      · intro another different
        exact (Table.find?_erase _ _ _).trans
          ((if_neg different.symm).trans (alike.alone another different))
  | move other position floor =>
    have same : other = pid := by simpa [Call.isForeign] using own
    subst same
    rcases alike.guidance.move full.world position floor with
      ⟨answer, failed, alsoFailed⟩ | ⟨member, answer, moved, alsoMoved⟩
    · simp only [reply, Scene.perform, alike.world, failed, alsoFailed]
      exact ⟨trivial, alike⟩
    · simp only [reply, Scene.perform, alike.world, moved, alsoMoved]
      exact ⟨trivial, alike.setMember member⟩
  | step time =>
    have ended : (full.guidance.step full.world time).2.escaped = none := contained time rfl
    rcases alike.step ended with ⟨alsoEnded, reported, after⟩
    simp only [reply, Scene.perform, alike.world, ended, alsoEnded, reported]
    exact ⟨trivial, after⟩
  | nextHop other target time =>
    simp only [reply, Scene.perform, alike.building, alike.guidance.nextHop]
    exact ⟨trivial, alike⟩
  | frontier other =>
    simp only [reply, Scene.perform, alike.guidance.frontier]
    exact ⟨trivial, alike⟩
  | ignite field reference density =>
    refine ⟨rfl, ?_⟩
    simp only [Scene.perform, alike.fields]
    exact alike.attempt field ((full.fields field).ignite reference density)
  | spread field =>
    refine ⟨rfl, ?_⟩
    simp only [Scene.perform, alike.fields]
    exact alike.withField field _
  | block field reference =>
    refine ⟨rfl, ?_⟩
    simp only [Scene.perform, alike.fields]
    exact alike.attempt field
      ((full.fields field).onConditions fun conditions => conditions.block reference)
  | unblock field reference =>
    refine ⟨rfl, ?_⟩
    simp only [Scene.perform, alike.fields]
    exact alike.attempt field
      ((full.fields field).onConditions fun conditions => conditions.unblock reference)
  | reset field =>
    refine ⟨rfl, ?_⟩
    simp only [Scene.perform, alike.fields]
    exact alike.withField field _
  | reseed field source =>
    refine ⟨rfl, ?_⟩
    simp only [Scene.perform, alike.fields]
    exact alike.withField field _

/-- The course of events is the same for an agent in scenes that are alike for it, whether calls
about other agents are made in the second or not. -/
theorem Alike.course (alike : Alike pid full lean) {calls : List (Call α σ γ)}
    (contained : ∀ event ∈ full.events calls, ∀ time, event.2 = .step time →
      (event.1.perform event.2).2 = none) :
    lean.course pid (calls.filter fun call => !call.isForeign pid) = full.course pid calls ∧
      Alike pid (full.run calls) (lean.run (calls.filter fun call => !call.isForeign pid)) := by
  induction calls generalizing full lean with
  | nil => exact ⟨rfl, alike⟩
  | cons call rest hypothesis =>
    rw [events, List.forall_mem_cons] at contained
    cases foreign : call.isForeign pid with
    | true =>
      rcases hypothesis (alike.perform_foreign foreign) contained.2 with ⟨same, after⟩
      rw [List.filter_cons_of_neg (by simp [foreign]), Scene.course, if_pos foreign]
      exact ⟨same, after⟩
    | false =>
      rcases alike.perform foreign contained.1 with ⟨replies, onward⟩
      rcases hypothesis onward contained.2 with ⟨same, after⟩
      rw [List.filter_cons_of_pos (by simp [foreign]), Scene.course, Scene.course]
      simp only [foreign, replies, onward.guidance.found, same]
      exact ⟨trivial, after⟩

/-- Agents do not interfere.  An agent sees the same course of events, and ends up with the same
entry, if all calls about other agents are left out. -/
theorem agents_do_not_interfere (building : Building α σ) (network : Network α) (suite : Suite α)
    (field : Option Nat) (settings : Settings α) (fields : Nat → Outbreak α γ) (pid : Int)
    {calls : List (Call α σ γ)} :
    let start : Scene α σ γ := ⟨building, .ofNetwork network suite field settings, fields⟩
    let own := calls.filter fun call => !call.isForeign pid
    (∀ event ∈ start.events calls, ∀ time, event.2 = .step time →
        (event.1.perform event.2).2 = none) →
      start.course pid own = start.course pid calls ∧
      (start.run own).guidance.members.find? pid =
        (start.run calls).guidance.members.find? pid := by
  intro start own contained
  have alike : Alike pid start start := ⟨rfl, rfl, ⟨.refl _, rfl⟩, fun _ _ => rfl⟩
  rcases alike.course contained with ⟨same, after⟩
  exact ⟨same, after.guidance.found⟩

/-- Two agents in the row, of whom the second leaves, while smoke comes up. -/
def company : List (Call Rat (Box Rat) (List Rat)) :=
  [.add Guidance.walker (some false),
    .add { Guidance.walker with pid := 2, position := ⟨3, 1⟩ } none,
    .ignite 0 1 none, .step .null, .move 2 ⟨5, 1⟩ none, .move 1 ⟨3, 1⟩ none, .step .null,
    .nextHop 1 (.index 0) .null, .remove 2, .frontier 1]

theorem agents_do_not_interfere_in_row :
    let own := company.filter fun call => !call.isForeign 1
    own.length = 7 ∧ row.course 1 own = row.course 1 company ∧
      (row.run own).guidance.members.find? 1 = (row.run company).guidance.members.find? 1 := by
  have succeeds : ((row.events company).all fun event =>
      (event.1.perform event.2).2.isNone) = true := by decide +kernel
  refine ⟨by decide, ?_⟩
  apply agents_do_not_interfere Building.row Building.rowNetwork (.standard (some 0) .defaults)
    (some 0) .defaults (fun _ => .ofNetwork Building.rowNetwork .defaults []) 1
  intro event member _ _
  exact Option.isNone_iff_eq_none.mp (List.all_eq_true.mp succeeds event member)

end Scene

end Egress
