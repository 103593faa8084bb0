import Egress.Proofs.Guidance
import Egress.Proofs.Outbreak

/-!
# Scenes

Guidance and the conditions it reads change side by side: agents come, move and leave, smoke spreads
and doors are blocked, in any order, and any of these calls may fail.  A scene holds all of it, and
a call on a scene is a call on one of its parts.

Whatever the calls are, the guidance comes to a state that calls on guidance alone can lead to, and
the conditions stay those of the same network.
-/

namespace Egress

/-- Guidance at work in a building, with the outbreaks that drive the conditions. -/
structure Scene (α σ γ : Type) where
  building : Building α σ
  guidance : Guidance α
  /-- The outbreak under each number. -/
  fields : Nat → Outbreak α γ

namespace Scene

variable {α σ γ : Type}

/-- What is there to be seen. -/
def world (scene : Scene α σ γ) : World α σ :=
  ⟨scene.building, fun number => (scene.fields number).conditions⟩

/-- A call on guidance or on an outbreak. -/
inductive Call (α σ γ : Type) where
  | add (agent : Agent α) (complete : Option Bool)
  | remove (pid : Int)
  | move (pid : Int) (position : Point α) (floor : Option Int)
  | step (time : Value α)
  | nextHop (pid : Int) (target : Target α σ) (time : Value α)
  | frontier (pid : Int)
  | ignite (field : Nat) (reference : Int) (density : Option (Value α))
  | spread (field : Nat)
  | block (field : Nat) (reference : Int)
  | unblock (field : Nat) (reference : Int)
  | reset (field : Nat)
  | reseed (field : Nat) (source : γ)

/-- The fault of a call that failed. -/
def fault? {β : Type} : Except (Fault α) β → Option (Fault α)
  | .ok _ => none
  | .error fault => some fault

/-- Put an outbreak under a number. -/
def withField (scene : Scene α σ γ) (field : Nat) (outbreak : Outbreak α γ) : Scene α σ γ :=
  { scene with fields := fun number => if number = field then outbreak else scene.fields number }

/-- Take over what a call makes of the scene, unless it fails. -/
def attempt (scene : Scene α σ γ) :
    Except (Fault α) (Scene α σ γ) → Scene α σ γ × Option (Fault α)
  | .ok after => (after, none)
  | .error fault => (scene, some fault)

variable [Scalar α] [Outline σ α] [RandomSource γ α]

/-- Make a call.  The result is the scene after it, and the fault if the call failed. -/
def perform (scene : Scene α σ γ) : Call α σ γ → Scene α σ γ × Option (Fault α)
  | .add agent complete => scene.attempt do
      return { scene with guidance := ← scene.guidance.addAgent scene.world agent complete }
  | .remove pid => scene.attempt do
      return { scene with guidance := (← scene.guidance.removeAgent pid).2 }
  | .move pid position floor =>
    let (guidance, result) := scene.guidance.move scene.world pid position floor
    ({ scene with guidance }, fault? result)
  | .step time =>
    let (guidance, report) := scene.guidance.step scene.world time
    ({ scene with guidance }, report.escaped)
  | .nextHop pid target time =>
    (scene, fault? (scene.guidance.nextHop scene.building pid target time).1)
  | .frontier pid => (scene, fault? (scene.guidance.frontier pid))
  | .ignite field reference density => scene.attempt do
      return scene.withField field (← (scene.fields field).ignite reference density)
  | .spread field =>
    let (result, outbreak) := Outbreak.spread.run (scene.fields field)
    (scene.withField field outbreak, fault? result)
  | .block field reference => scene.attempt do
      return scene.withField field
        (← (scene.fields field).onConditions fun conditions => conditions.block reference)
  | .unblock field reference => scene.attempt do
      return scene.withField field
        (← (scene.fields field).onConditions fun conditions => conditions.unblock reference)
  | .reset field => (scene.withField field (scene.fields field).reset, none)
  | .reseed field source => (scene.withField field ((scene.fields field).reseed source), none)

/-- Make calls one after another, whether they fail or not. -/
def run (scene : Scene α σ γ) (calls : List (Call α σ γ)) : Scene α σ γ :=
  calls.foldl (fun scene call => (scene.perform call).1) scene

/-- A call with the scene in which it is made. -/
abbrev Event (α σ γ : Type) : Type := Scene α σ γ × Call α σ γ

/-- The calls of a run, each with the scene that it found. -/
def events (scene : Scene α σ γ) : List (Call α σ γ) → List (Event α σ γ)
  | [] => []
  | call :: rest => (scene, call) :: events (scene.perform call).1 rest

variable {scene after : Scene α σ γ} {call : Call α σ γ}

theorem run_append_singleton (scene : Scene α σ γ) (calls : List (Call α σ γ))
    (call : Call α σ γ) :
    scene.run (calls ++ [call]) = ((scene.run calls).perform call).1 := by
  rw [run, List.foldl_append]
  rfl

theorem events_append_singleton (scene : Scene α σ γ) (calls : List (Call α σ γ))
    (call : Call α σ γ) :
    scene.events (calls ++ [call]) = scene.events calls ++ [(scene.run calls, call)] := by
  induction calls generalizing scene with
  | nil => rfl
  | cons first rest hypothesis => exact congrArg (List.cons _) (hypothesis _)

/-! ## What calls do -/

/-- The call locates an agent, and succeeds. -/
def Locates (pid : Int) (event : Event α σ γ) : Prop :=
  (event.1.perform event.2).2 = none ∧
    ((∃ agent complete, event.2 = .add agent complete ∧ agent.pid = pid) ∨
      ∃ position floor, event.2 = .move pid position floor)

theorem locates_add_iff {agent : Agent α} {complete : Option Bool} {pid : Int} :
    Locates pid (scene, .add agent complete) ↔
      (scene.perform (.add agent complete)).2 = none ∧ agent.pid = pid := by
  simp [Locates]

theorem locates_move_iff {other pid : Int} {position : Point α} {floor : Option Int} :
    Locates pid (scene, .move other position floor) ↔
      (scene.perform (.move other position floor)).2 = none ∧ other = pid := by
  simp [Locates]

/-- What a call makes of a scene.  It locates no agent and leaves the guidance alone, or it is a
call on the guidance; a call that is to register or remove an agent may fail and is then of the
first kind. -/
inductive Performs (scene : Scene α σ γ) (call : Call α σ γ) : Prop
  | idle (apart : ∀ pid, ¬ Locates pid (scene, call)) (same : (scene.perform call).1 = scene)
  | field (number : Nat) (outbreak : Outbreak α γ)
      (apart : ∀ pid, ¬ Locates pid (scene, call))
      (kept : ∀ network, (scene.fields number).Watches network → outbreak.Watches network)
      (changed : (scene.perform call).1 = scene.withField number outbreak)
  | add (agent : Agent α) (complete : Option Bool) (guidance : Guidance α)
      (isCall : call = .add agent complete)
      (added : scene.guidance.addAgent scene.world agent complete = .ok guidance)
      (changed : scene.perform call = ({ scene with guidance }, none))
  | remove (pid : Int) (agent : Agent α) (guidance : Guidance α) (isCall : call = .remove pid)
      (removed : scene.guidance.removeAgent pid = .ok (agent, guidance))
      (changed : (scene.perform call).1 = { scene with guidance })
  | move (pid : Int) (position : Point α) (floor : Option Int)
      (isCall : call = .move pid position floor)
  | step (time : Value α) (isCall : call = .step time)

/-- The calls that locate an agent if they succeed. -/
def Locating : Call α σ γ → Prop
  | .add _ _ | .move _ _ _ => True
  | _ => False

theorem not_locates {pid : Int} (other : ¬ Locating call) : ¬ Locates pid (scene, call) := by
  rintro ⟨-, ⟨agent, complete, isAdd, -⟩ | ⟨position, floor, isMove⟩⟩
  · cases isAdd
    exact other trivial
  · cases isMove
    exact other trivial

/-- A call that may change one outbreak. -/
theorem performs_attempt {field : Nat} {made : Except (Fault α) (Outbreak α γ)}
    (apart : ∀ pid, ¬ Locates pid (scene, call))
    (kept : ∀ {outbreak network}, (scene.fields field).Watches network → made = .ok outbreak →
      outbreak.Watches network)
    (performed : scene.perform call =
      scene.attempt (made.bind fun outbreak => .ok (scene.withField field outbreak))) :
    Performs scene call := by
  cases made with
  | error fault => exact .idle apart (congrArg Prod.fst performed)
  | ok outbreak =>
    exact .field field outbreak apart (fun network watches => kept watches rfl)
      (congrArg Prod.fst performed)

theorem performs (scene : Scene α σ γ) (call : Call α σ γ) : Performs scene call := by
  cases call with
  | add agent complete =>
    cases added : scene.guidance.addAgent scene.world agent complete with
    | ok guidance =>
      refine .add agent complete guidance rfl added ?_
      rw [perform, added]
      rfl
    | error fault =>
      have failed : scene.perform (.add agent complete) = (scene, some fault) := by
        rw [perform, added]
        rfl
      refine .idle (fun pid located => ?_) (congrArg Prod.fst failed)
      cases (congrArg Prod.snd failed).symm.trans located.1
  | remove pid =>
    cases removed : scene.guidance.removeAgent pid with
    | ok result =>
      refine .remove pid result.1 result.2 rfl removed ?_
      rw [perform, removed]
      rfl
    | error fault =>
      refine .idle (fun pid => not_locates not_false) ?_
      rw [perform, removed]
      rfl
  | move pid position floor => exact .move pid position floor rfl
  | step time => exact .step time rfl
  | nextHop pid target time => exact .idle (fun pid => not_locates not_false) rfl
  | frontier pid => exact .idle (fun pid => not_locates not_false) rfl
  | ignite field reference density =>
    exact performs_attempt (fun pid => not_locates not_false) Outbreak.watches_ignite rfl
  | spread field =>
    refine .field field (Outbreak.spread.run (scene.fields field)).2
      (fun pid => not_locates not_false) ?_ rfl
    exact fun network watches => Outbreak.keeps_spread _ watches
  | block field reference =>
    exact performs_attempt (fun pid => not_locates not_false)
      (Outbreak.watches_onConditions Conditions.network_of_block) rfl
  | unblock field reference =>
    exact performs_attempt (fun pid => not_locates not_false)
      (Outbreak.watches_onConditions Conditions.network_of_unblock) rfl
  | reset field =>
    exact .field field (scene.fields field).reset (fun pid => not_locates not_false)
      (fun network watches => watches) rfl
  | reseed field source =>
    exact .field field ((scene.fields field).reseed source) (fun pid => not_locates not_false)
      (fun network watches => watches) rfl

/-! ## Runs -/

theorem building_perform (scene : Scene α σ γ) (call : Call α σ γ) :
    (scene.perform call).1.building = scene.building := by
  rcases performs scene call with ⟨-, same⟩ | ⟨number, outbreak, -, -, changed⟩ |
    ⟨agent, complete, guidance, -, -, changed⟩ | ⟨pid, agent, guidance, -, -, changed⟩ |
    ⟨pid, position, floor, rfl⟩ | ⟨time, rfl⟩
  · rw [same]
  · rw [changed]
    rfl
  · rw [changed]
  · rw [changed]
  · rfl
  · rfl

/-- No call puts an outbreak in another network. -/
theorem watches_perform {network : Network α} {number : Nat}
    (watches : (scene.fields number).Watches network) (call : Call α σ γ) :
    ((scene.perform call).1.fields number).Watches network := by
  rcases performs scene call with ⟨-, same⟩ | ⟨field, outbreak, -, kept, changed⟩ |
    ⟨agent, complete, guidance, -, -, changed⟩ | ⟨pid, agent, guidance, -, -, changed⟩ |
    ⟨pid, position, floor, rfl⟩ | ⟨time, rfl⟩
  · rw [same]
    exact watches
  · rw [changed, withField]
    dsimp only
    split
    · rename_i equal
      exact kept network (equal ▸ watches)
    · exact watches
  · rw [changed]
    exact watches
  · rw [changed]
    exact watches
  · exact watches
  · exact watches

/-- What calls make of the guidance, calls on guidance alone make of it. -/
theorem reachable_perform {building : Building α σ} {initial : Guidance α}
    (inBuilding : scene.building = building)
    (reachable : Guidance.Reachable building initial scene.guidance) (call : Call α σ γ) :
    Guidance.Reachable building initial (scene.perform call).1.guidance := by
  subst inBuilding
  rcases performs scene call with ⟨-, same⟩ | ⟨field, outbreak, -, kept, changed⟩ |
    ⟨agent, complete, guidance, -, added, changed⟩ |
    ⟨pid, agent, guidance, -, removed, changed⟩ | ⟨pid, position, floor, rfl⟩ | ⟨time, rfl⟩
  · rw [same]
    exact reachable
  · rw [changed]
    exact reachable
  · rw [changed]
    exact .add _ agent complete reachable added
  · rw [changed]
    exact .remove pid reachable removed
  · exact .move _ pid position floor reachable
  · exact .step _ time reachable

/-- What holds of a scene after any calls. -/
structure Follows (start scene : Scene α σ γ) : Prop where
  building : scene.building = start.building
  reachable : Guidance.Reachable start.building start.guidance scene.guidance
  watches : ∀ {network number}, (start.fields number).Watches network →
    (scene.fields number).Watches network

theorem follows_run (start : Scene α σ γ) (calls : List (Call α σ γ)) :
    Follows start (start.run calls) := by
  induction calls using List.reverseRecOn with
  | nil => exact ⟨rfl, .start, id⟩
  | append_singleton calls call hypothesis =>
    rw [run_append_singleton]
    exact ⟨(building_perform _ call).trans hypothesis.building,
      reachable_perform hypothesis.building hypothesis.reachable call,
      fun watches => watches_perform (hypothesis.watches watches) call⟩

end Scene

end Egress
