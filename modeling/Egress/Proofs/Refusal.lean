import Egress.Proofs.Members
import Egress.Proofs.Writes

/-!
# Refused calls leave no trace

A call that registers, moves, removes or asks for an agent may be refused: the number is taken or
unknown, a position lies in no region, a target is not in the network or out of reach.  Whatever
calls were made before, a refused call leaves the scene as it found it, and an agent that is not
registered is left as it was handed in.

For registering and moving this is a matter of order.  Both calls write field by field, and all that
can be refused is looked up before the first write.  What may fail later is not refused: how many
regions an agent remembers may be no number or too large a one, and in the network for which the
conditions are kept an agent that was located can be exposed to them.
-/

namespace Egress

/-- The kinds of faults with which a call for an agent is refused. -/
def FaultKind.refusals : List FaultKind :=
  [badValue, unlocated, unknownAgent, noRoute, missingKey]

namespace Guidance

open FaultKind

variable {α σ : Type} [Scalar α] {guidance : Guidance α} {world : World α σ} {fault : Fault α}

/-- Where the bound of histories cannot be made, this is no refusal. -/
theorem historyBound_fails (settings : Settings α) :
    FailsWith (fun fault => fault.kind ∉ refusals) (historyBound settings) := by
  have wrongType : (Fault.wrongType : Fault α).kind ∉ refusals := by
    change FaultKind.wrongType ∉ refusals
    decide
  have tooLarge : (Fault.tooLarge : Fault α).kind ∉ refusals := by
    change FaultKind.tooLarge ∉ refusals
    decide
  intro fault failed
  unfold historyBound at failed
  split at failed
  · cases failed
    exact wrongType
  · split at failed
    · split at failed
      · split at failed
        · cases failed
        · cases failed
          exact tooLarge
      · cases failed
        exact wrongType
    · cases failed

variable [Outline σ α]

/-- A registration is refused before its first write. -/
theorem registerByWrites_of_refused (monitored : guidance.Monitored world) {agent : Agent α}
    {complete : Option Bool} (refused : guidance.addAgent world agent complete = .error fault)
    (isRefusal : fault.kind ∈ refusals) :
    (registerByWrites world complete).run ⟨guidance, agent⟩ =
      (.error fault, ⟨guidance, agent⟩) := by
  rcases refuses_registerByWrites fault refused with ⟨left, ran⟩
  suffices same : left = agent by rw [ran, same]
  rw [run_registerByWrites] at ran
  split at ran
  · cases ran
    rfl
  · split at ran
    · cases ran
      rfl
    · rename_i region located
      have inside := monitored.formed.region_lt_of_mem (Network.regionFor_mem located)
      let blank := Awareness.ofNetwork guidance.network
        (complete.getD (guidance.settings.value .fullKnowledge).truthy) guidance.settings
      have insideBlank : region.index < blank.network.size := inside
      rcases Awareness.discover_of_lt insideBlank with ⟨awareness, fresh, discovered⟩
      rw [discovered] at ran
      dsimp only at ran
      split at ran
      · rename_i other failed
        cases ran
        exact absurd isRefusal (historyBound_fails guidance.settings fault failed)
      · rename_i bound isBound
        rcases exists_expose monitored inside
          (({ agent with region := some ↑region.index } : Agent α).bounded bound) with
          ⟨exposed, done⟩
        rw [done] at ran
        cases ran

/-- A move that fails changes nothing. -/
theorem move_of_error (monitored : guidance.Monitored world) {pid : Int} {position : Point α}
    {floor : Option Int} (failed : (guidance.move world pid position floor).2 = .error fault) :
    guidance.move world pid position floor = (guidance, .error fault) := by
  unfold move at failed ⊢
  cases isMember : guidance.member pid with
  | error other =>
    rw [isMember] at failed
    exact congrArg _ failed
  | ok member =>
    rw [isMember] at failed
    dsimp only at failed ⊢
    cases located : guidance.network.regionFor world.building position
        (floor <|> member.agent.floor) with
    | error other =>
      rw [located] at failed
      exact congrArg _ failed
    | ok region =>
      rw [located] at failed
      dsimp only at failed ⊢
      cases entered : enter { member with agent :=
          { member.agent with position, floor := floor <|> member.agent.floor } } region with
      | error other =>
        rw [entered] at failed
        exact congrArg _ failed
      | ok after =>
        rw [entered] at failed
        have inside := monitored.formed.region_lt_of_mem (Network.regionFor_mem located)
        rcases exists_expose monitored inside after.agent with ⟨exposed, done⟩
        dsimp only at failed
        rw [done] at failed
        cases failed

end Guidance

namespace Scene

open FaultKind

variable {α σ γ : Type}

/-- The calls for an agent. -/
def Serves : Call α σ γ → Prop
  | .add _ _ | .remove _ | .move _ _ _ | .nextHop _ _ _ | .frontier _ => True
  | _ => False

theorem attempt_of_fault {scene : Scene α σ γ} {made : Except (Fault α) (Scene α σ γ)}
    {fault : Fault α} (failed : (scene.attempt made).2 = some fault) :
    made = .error fault ∧ (scene.attempt made).1 = scene := by
  cases made with
  | ok after => cases failed
  | error other =>
    cases failed
    exact ⟨rfl, rfl⟩

theorem eq_error_of_fault? {β : Type} {computed : Except (Fault α) β} {fault : Fault α}
    (failed : fault? computed = some fault) : computed = .error fault := by
  cases computed with
  | ok value => cases failed
  | error other =>
    cases failed
    rfl

variable [Scalar α] [Outline σ α] [RandomSource γ α]

/-- What holds of a call that is refused: the scene is as it was, and where the call writes field by
field, it failed before its first write. -/
structure Untraced (scene : Scene α σ γ) (call : Call α σ γ) (fault : Fault α) : Prop where
  unchanged : (scene.perform call).1 = scene
  registered : ∀ agent complete, call = .add agent complete →
    (Guidance.registerByWrites scene.world complete).run ⟨scene.guidance, agent⟩ =
      (.error fault, ⟨scene.guidance, agent⟩)
  moved : ∀ pid position floor, call = .move pid position floor →
    scene.guidance.moveByWrites scene.world pid position floor = (scene.guidance, .error fault)

/-- Only calls that locate an agent write field by field. -/
theorem untraced_of_unchanged {scene : Scene α σ γ} {call : Call α σ γ} {fault : Fault α}
    (unchanged : (scene.perform call).1 = scene) (other : ¬ Locating call) :
    Untraced scene call fault where
  unchanged := unchanged
  registered := by
    rintro agent complete rfl
    exact absurd trivial other
  moved := by
    rintro pid position floor rfl
    exact absurd trivial other

theorem untraced_of_refused {scene : Scene α σ γ} (monitored : scene.guidance.Monitored scene.world)
    (sees : ∀ pid member, scene.guidance.members.find? pid = some member →
      member.awareness.network = scene.guidance.network)
    {call : Call α σ γ} (serves : Serves call) {fault : Fault α}
    (refused : (scene.perform call).2 = some fault) (isRefusal : fault.kind ∈ refusals) :
    Untraced scene call fault := by
  cases call with
  | add agent complete =>
    rcases attempt_of_fault refused with ⟨failed, same⟩
    refine ⟨same, ?_, ?_⟩
    · rintro _ _ ⟨⟩
      refine Guidance.registerByWrites_of_refused monitored ?_ isRefusal
      cases added : scene.guidance.addAgent scene.world agent complete with
      | ok after =>
        rw [added] at failed
        cases failed
      | error other =>
        rw [added] at failed
        cases failed
        rfl
    · rintro _ _ _ ⟨⟩
  | remove pid => exact untraced_of_unchanged (attempt_of_fault refused).2 not_false
  | move pid position floor =>
    have unmoved := Guidance.move_of_error monitored (eq_error_of_fault? refused)
    refine ⟨?_, ?_, ?_⟩
    · rw [perform, unmoved]
    · rintro _ _ ⟨⟩
    · rintro _ _ _ ⟨⟩
      rw [Guidance.moveByWrites_eq_move monitored.formed (sees pid), unmoved]
  | nextHop pid target time => exact untraced_of_unchanged rfl not_false
  | frontier pid => exact untraced_of_unchanged rfl not_false
  | _ => exact serves.elim

/-- After any calls, a call for an agent that is refused leaves no trace. -/
theorem refused_untraced {building : Building α σ} {network : Network α} {suite : Suite α}
    {field : Option Nat} {settings : Settings α} {fields : Nat → Outbreak α γ}
    (formed : network.WellFormed)
    (watched : ∀ number, field = some number → (fields number).conditions.network = network)
    (calls : List (Call α σ γ)) {call : Call α σ γ} (serves : Serves call) {fault : Fault α} :
    let start : Scene α σ γ := ⟨building, .ofNetwork network suite field settings, fields⟩
    ((start.run calls).perform call).2 = some fault → fault.kind ∈ refusals →
      Untraced (start.run calls) call fault := by
  intro start refused isRefusal
  have begins : start.guidance.Monitored start.world := ⟨formed, watched⟩
  have monitored := monitored_run rfl begins calls
  refine untraced_of_refused monitored ?_ serves refused isRefusal
  have consistent := (start.follows_run calls).reachable.consistent rfl
  intro pid member isMember
  rcases (consistent.placed pid member isMember).grown with ⟨complete, grown⟩
  exact grown.network.trans consistent.frame.1.symm

/-- An agent outside the row. -/
def stray : Agent Rat := { Guidance.walker with pid := 2, position := ⟨9, 9⟩ }

theorem refused_untraced_in_row : ∃ fault,
    ((row.run errand).perform (.add stray none)).2 = some fault ∧ fault.kind ∈ refusals ∧
      Untraced (row.run errand) (.add stray none) fault := by
  have lost : ((row.run errand).perform (.add stray none)).2.map Fault.kind = some .unlocated := by
    decide +kernel
  rcases Option.map_eq_some_iff.mp lost with ⟨fault, refused, isKind⟩
  have isRefusal : fault.kind ∈ refusals := by
    rw [isKind]
    decide
  exact ⟨fault, refused, isRefusal,
    refused_untraced Building.row_priced.formed (fun _ _ => rfl) errand
      (show Serves (.add stray none) from trivial) refused isRefusal⟩

end Scene

end Egress
