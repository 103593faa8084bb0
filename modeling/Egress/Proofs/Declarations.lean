import Mathlib.Data.List.Nodup
import Egress.Building
import Egress.Proofs.Traversal

/-!
# Declarations

A building is made by calls that declare rooms, portals and doors, in any order and with questions
in between.  A call that is refused changes nothing, so what the building holds is what the accepted
calls declared: each adds its own entries at the end and leaves the others as they are.

Whatever the calls, no two rooms have one id, portals and doors belong to rooms that were declared
before them, and every portal is recorded right next to its mirror image.
-/

namespace Egress

/-- A portal in the other direction. -/
def Portal.mirror {α : Type} (portal : Portal α) : Portal α :=
  ⟨portal.target, portal.source, portal.point⟩

namespace Building

variable {α σ : Type}

/-- A call on a building: a declaration, or the question in which room a point lies. -/
inductive Call (α : Type) where
  | room (id : String) (points : List (Point α)) (category : String) (floor : Int)
  | portal (first second : String) (point : Option (Point α))
  | door (id : String) (point : Point α)
  | locate (point : Point α) (floor : Option Int)

namespace Call

/-- The ids of the rooms that a call declares. -/
def ids : Call α → List String
  | .room id _ _ _ => [id]
  | _ => []

/-- The ends of the portals that a call declares. -/
def ends : Call α → List (String × String)
  | .portal first second _ => [(first, second), (second, first)]
  | _ => []

/-- The doors that a call declares. -/
def doors : Call α → List (Door α)
  | .door id point => [⟨id, point⟩]
  | _ => []

end Call

variable [Scalar α] [Outline σ α]

/-- The rooms that a call declares if it is accepted. -/
def Call.rooms : Call α → List (Room σ)
  | .room id points label floor =>
    match Category.ofLabel? label, (Outline.ofPoints points : Except OutlineFlaw σ) with
    | some category, .ok shape => [⟨id, shape, category, floor⟩]
    | _, _ => []
  | _ => []

def perform (building : Building α σ) : Call α → Except (Fault α) (Building α σ)
  | .room id points category floor => building.addRoom id points category floor
  | .portal first second point => building.addPortal first second point
  | .door id point => building.addDoor id point
  | .locate point floor => .ok (building.locate point floor).2

/-- The building after some calls. -/
def performAll (building : Building α σ) : List (Call α) → Building α σ
  | [] => building
  | call :: rest =>
    match building.perform call with
    | .ok next => next.performAll rest
    | .error _ => building.performAll rest

/-- The calls that are not refused. -/
def accepted (building : Building α σ) : List (Call α) → List (Call α)
  | [] => []
  | call :: rest =>
    match building.perform call with
    | .ok next => call :: next.accepted rest
    | .error _ => building.accepted rest

/-! ## What a call does -/

/-- A call is accepted, and this is the building after it. -/
inductive Follows (building : Building α σ) : Call α → Building α σ → Prop where
  | room {id : String} {points : List (Point α)} {label : String} {floor : Int}
      {category : Category} {shape : σ} (fresh : building.room? id = none)
      (known : Category.ofLabel? label = some category)
      (bounded : Outline.ofPoints points = .ok shape)
      (wide : ¬ Outline.area shape ≤ Scalar.zero)
      (apart : ∀ other ∈ building.rooms, other.floor = floor →
        overlaps shape other.shape = false) :
      Follows building (.room id points label floor)
        { building with rooms := building.rooms ++ [⟨id, shape, category, floor⟩], index := none }
  | portal {first second : String} {point : Option (Point α)} {near target : Room σ}
      (isFirst : building.room? first = some near)
      (isSecond : building.room? second = some target) :
      Follows building (.portal first second point)
        (let portal := ⟨first, second, point.getD (Outline.centre target.shape)⟩
        { building with portals := building.portals ++ [portal, portal.mirror] })
  | door {id : String} {point : Point α} {room : Room σ} (isRoom : building.room? id = some room) :
      Follows building (.door id point)
        { building with doors := building.doors ++ [⟨id, point⟩] }
  | locate {point : Point α} {floor : Option Int} :
      Follows building (.locate point floor) building.indexed

variable {building next : Building α σ} {call : Call α}

omit [Scalar α] [Outline σ α] in
theorem room?_of_declared {id : String} {room : Room σ}
    (declared : building.declared id = .ok room) : building.room? id = some room := by
  unfold Building.declared at declared
  split at declared
  · cases declared
    assumption
  · cases declared

theorem follows_of_perform (performed : building.perform call = .ok next) :
    building.Follows call next := by
  cases call with
  | room id points label floor =>
    simp only [perform, addRoom] at performed
    split at performed
    · cases performed
    · rename_i fresh
      rw [Bool.not_eq_true, Option.isSome_eq_false_iff, Option.isNone_iff_eq_none] at fresh
      split at performed
      · rename_i category known
        split at performed
        · rename_i outline bounded
          split at performed
          · cases performed
          · rename_i wide
            rcases bind_eq_ok.mp performed with ⟨shape, same, rest⟩
            cases same
            split at rest
            · cases rest
            · rename_i alone
              cases rest
              refine .room fresh known bounded wide fun other member sameFloor => ?_
              have clear := List.find?_eq_none.mp alone other member
              simpa [sameFloor] using clear
        · cases performed
        · cases performed
      · cases performed
  | portal first second point =>
    rcases bind_eq_ok.mp performed with ⟨near, isFirst, rest⟩
    rcases bind_eq_ok.mp rest with ⟨target, isSecond, same⟩
    cases same
    exact .portal (room?_of_declared isFirst) (room?_of_declared isSecond)
  | door id point =>
    rcases bind_eq_ok.mp performed with ⟨room, isRoom, same⟩
    cases same
    exact .door (room?_of_declared isRoom)
  | locate point floor =>
    cases performed
    exact .locate

/-! ## Runs of calls -/

/-- What every accepted call keeps, all calls together keep. -/
theorem performAll_keeps (holds : Building α σ → Prop)
    (step : ∀ {building next : Building α σ} {call : Call α}, building.Follows call next →
      holds building → holds next) (before : holds building) (calls : List (Call α)) :
    holds (building.performAll calls) := by
  induction calls generalizing building with
  | nil => exact before
  | cons call rest hypothesis =>
    rw [performAll]
    split
    · rename_i next performed
      exact hypothesis (step (follows_of_perform performed) before)
    · exact hypothesis before

/-! ## What is declared -/

/-- What every accepted call adds at the end of a list, all accepted calls together add. -/
theorem performAll_records {β : Type} (view : Building α σ → List β) (recorded : Call α → List β)
    (step : ∀ {building next : Building α σ} {call : Call α}, building.Follows call next →
      view next = view building ++ recorded call)
    (building : Building α σ) (calls : List (Call α)) :
    view (building.performAll calls) =
      view building ++ (building.accepted calls).flatMap recorded := by
  induction calls generalizing building with
  | nil => exact (List.append_nil _).symm
  | cons call rest hypothesis =>
    rw [performAll, accepted]
    split
    · rename_i next performed
      rw [hypothesis, step (follows_of_perform performed), List.flatMap_cons, List.append_assoc]
    · exact hypothesis building

theorem performAll_ids (building : Building α σ) (calls : List (Call α)) :
    (building.performAll calls).ids =
      building.ids ++ (building.accepted calls).flatMap Call.ids := by
  refine performAll_records ids Call.ids ?_ building calls
  intro building next call follows
  cases follows with
  | room => exact List.map_append
  | portal => exact (List.append_nil _).symm
  | door => exact (List.append_nil _).symm
  | locate => exact (List.append_nil _).symm

/-- Every declared room stands behind the rooms that were declared before it, with the outline, the
category and the floor of its declaration. -/
theorem performAll_rooms (building : Building α σ) (calls : List (Call α)) :
    (building.performAll calls).rooms =
      building.rooms ++ (building.accepted calls).flatMap Call.rooms := by
  refine performAll_records rooms Call.rooms ?_ building calls
  intro building next call follows
  cases follows with
  | room _ known bounded =>
    rw [Call.rooms, known, bounded]
  | portal => exact (List.append_nil _).symm
  | door => exact (List.append_nil _).symm
  | locate => exact (List.append_nil _).symm

/-- Calls only ever add rooms behind those that are there. -/
theorem exists_rooms_performAll (building : Building α σ) (calls : List (Call α)) :
    ∃ added, (building.performAll calls).rooms = building.rooms ++ added :=
  ⟨_, performAll_rooms building calls⟩

theorem performAll_ends (building : Building α σ) (calls : List (Call α)) :
    (building.performAll calls).portals.map (fun portal => (portal.source, portal.target)) =
      building.portals.map (fun portal => (portal.source, portal.target)) ++
        (building.accepted calls).flatMap Call.ends := by
  refine performAll_records (fun building => building.portals.map fun portal =>
    (portal.source, portal.target)) Call.ends ?_ building calls
  intro building next call follows
  cases follows with
  | room => exact (List.append_nil _).symm
  | portal => exact List.map_append
  | door => exact (List.append_nil _).symm
  | locate => exact (List.append_nil _).symm

theorem performAll_doors (building : Building α σ) (calls : List (Call α)) :
    (building.performAll calls).doors =
      building.doors ++ (building.accepted calls).flatMap Call.doors := by
  refine performAll_records doors Call.doors ?_ building calls
  intro building next call follows
  cases follows with
  | room => exact (List.append_nil _).symm
  | portal => exact (List.append_nil _).symm
  | door => rfl
  | locate => exact (List.append_nil _).symm

/-! ## What always holds -/

omit [Scalar α] [Outline σ α] in
theorem mem_ids_iff {id : String} : id ∈ building.ids ↔ ∃ room, building.room? id = some room := by
  rw [← Option.isSome_iff_exists]
  simp [ids, room?]

/-- The entries of a building refer to each other as they should. -/
structure Consistent (building : Building α σ) : Prop where
  distinct : building.ids.Nodup
  portal_declared : ∀ portal ∈ building.portals,
    portal.source ∈ building.ids ∧ portal.target ∈ building.ids
  door_declared : ∀ door ∈ building.doors, door.room ∈ building.ids
  /-- Portals come in pairs. -/
  mirrored : ∃ declared : List (Portal α),
    building.portals = declared.flatMap fun portal => [portal, portal.mirror]

namespace Consistent

omit [Scalar α] [Outline σ α] in
theorem empty : (Building.empty : Building α σ).Consistent where
  distinct := .nil
  portal_declared _ member := absurd member List.not_mem_nil
  door_declared _ member := absurd member List.not_mem_nil
  mirrored := ⟨[], rfl⟩

theorem follows (consistent : building.Consistent) (follows : building.Follows call next) :
    next.Consistent := by
  cases follows with
  | @room id points label floor category shape fresh known bounded wide apart =>
    have unused : id ∉ building.ids := by
      intro member
      rcases mem_ids_iff.mp member with ⟨room, found⟩
      rw [fresh] at found
      cases found
    have grown : ∀ {other : String}, other ∈ building.ids →
        other ∈ building.ids ++ [id] := fun member => List.mem_append_left _ member
    have ids : Building.ids (
        { building with rooms := building.rooms ++ [⟨id, shape, category, floor⟩], index := none } :
          Building α σ) = building.ids ++ [id] := List.map_append
    refine ⟨?_, ?_, ?_, consistent.mirrored⟩
    · rw [ids]
      exact consistent.distinct.append (List.nodup_singleton id)
        (List.disjoint_singleton.mpr unused)
    · intro portal member
      rw [ids]
      have ends := consistent.portal_declared portal member
      exact ⟨grown ends.1, grown ends.2⟩
    · intro door member
      rw [ids]
      exact grown (consistent.door_declared door member)
  | @portal first second point near target isFirst isSecond =>
    have nearDeclared : first ∈ building.ids := mem_ids_iff.mpr ⟨near, isFirst⟩
    have targetDeclared : second ∈ building.ids := mem_ids_iff.mpr ⟨target, isSecond⟩
    refine ⟨consistent.distinct, ?_, consistent.door_declared, ?_⟩
    · intro portal member
      rcases List.mem_append.mp member with old | new
      · exact consistent.portal_declared portal old
      · rcases List.mem_pair.mp new with rfl | rfl
        · exact ⟨nearDeclared, targetDeclared⟩
        · exact ⟨targetDeclared, nearDeclared⟩
    · rcases consistent.mirrored with ⟨declared, pairs⟩
      refine ⟨declared ++ [⟨first, second, point.getD (Outline.centre target.shape)⟩], ?_⟩
      rw [List.flatMap_append, ← pairs]
      rfl
  | @door id point room isRoom =>
    refine ⟨consistent.distinct, consistent.portal_declared, ?_, consistent.mirrored⟩
    intro door member
    rcases List.mem_append.mp member with old | new
    · exact consistent.door_declared door old
    · rw [List.mem_singleton.mp new]
      exact mem_ids_iff.mpr ⟨room, isRoom⟩
  | locate =>
    exact ⟨consistent.distinct, consistent.portal_declared, consistent.door_declared,
      consistent.mirrored⟩

theorem performAll (consistent : building.Consistent) (calls : List (Call α)) :
    (building.performAll calls).Consistent :=
  performAll_keeps Consistent (fun accepted before => before.follows accepted) consistent calls

end Consistent

end Building

end Egress
