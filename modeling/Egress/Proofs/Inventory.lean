import Egress.Proofs.Registry

/-!
# What a building holds

Whatever calls are made on a building, it holds what the accepted ones declared and nothing else.
Every room has an id of its own, with the outline, the category and the floor of its declaration,
each of them in a table of its own.  Every portal is recorded on the sides of both its rooms, and a
portal from a room to itself twice on the one side, in the order of declaration.  Two rooms on one
floor share no more area than is tolerated: only the later one is compared with the earlier, which
is enough because what two outlines share does not depend on their order.

A declaration is refused for a bad value and for nothing else, and then it might as well not have
been made: nothing was written before it was refused.
-/

namespace Egress

namespace Building

variable {α σ : Type} [Scalar α] [Outline σ α] {building next : Building α σ} {call : Call α}

/-! ## The sides of a portal -/

omit [Scalar α] [Outline σ α] in
/-- What is recorded on the side of a room, portal by portal: the room behind and the point. -/
def links (building : Building α σ) (id : String) : List (String × Option (Point α)) :=
  (building.portals.filter fun portal => portal.source == id).map fun portal =>
    (portal.target, some portal.point)

omit [Scalar α] in
/-- The centre of a room. -/
def centre? (building : Building α σ) (id : String) : Option (Point α) :=
  (building.room? id).map fun room => Outline.centre room.shape

omit [Scalar α] [Outline σ α] in
/-- What a call is to record on the side of a room, where the centres of rooms are given.  A portal
that is declared without a point leads through the centre of its second room. -/
def Call.links (centre? : String → Option (Point α)) (id : String) :
    Call α → List (String × Option (Point α))
  | .portal first second point =>
    let through := point <|> centre? second
    (if first = id then [(second, through)] else []) ++
      if second = id then [(first, through)] else []
  | .room _ _ _ _ | .door _ _ | .locate _ _ => []

theorem links_follows (follows : building.Follows call next) (id : String) :
    next.links id = building.links id ++ call.links building.centre? id := by
  cases follows with
  | room => exact (List.append_nil _).symm
  | door => exact (List.append_nil _).symm
  | locate => exact (List.append_nil _).symm
  | @portal first second point near target isFirst isSecond =>
    have through : some (point.getD (Outline.centre target.shape)) =
        (point <|> building.centre? second) := by
      rw [centre?, isSecond]
      cases point <;> rfl
    simp only [links, List.filter_append, List.map_append, Call.links, ← through]
    by_cases fromFirst : first = id <;> by_cases fromSecond : second = id <;>
      simp [Portal.mirror, fromFirst, fromSecond]

/-- Rooms that were declared stay as they are. -/
theorem room?_performAll {id : String} {room : Room σ} (found : building.room? id = some room)
    (calls : List (Call α)) : (building.performAll calls).room? id = some room := by
  rcases exists_rooms_performAll building calls with ⟨added, rooms⟩
  unfold room? at found ⊢
  rw [rooms, List.find?_append, found]
  rfl

/-- The rooms of an accepted portal are declared, so other calls change nothing in its record. -/
theorem links_of_follows (follows : building.Follows call next) (calls : List (Call α))
    (id : String) :
    call.links (building.performAll calls).centre? id = call.links building.centre? id := by
  cases follows with
  | room => rfl
  | door => rfl
  | locate => rfl
  | portal _ isSecond =>
    simp only [Call.links, centre?, isSecond, room?_performAll isSecond calls]

/-- What is recorded on the side of a room is what the accepted calls are to record. -/
theorem links_performAll (building : Building α σ) (calls : List (Call α)) (id : String) :
    (building.performAll calls).links id = building.links id ++
      (building.accepted calls).flatMap (Call.links (building.performAll calls).centre? id) := by
  induction calls generalizing building with
  | nil => exact (List.append_nil _).symm
  | cons call rest hypothesis =>
    cases performed : building.perform call with
    | error fault =>
      simp only [performAll, accepted, performed]
      exact hypothesis building
    | ok next =>
      have follows := follows_of_perform performed
      have recorded := links_of_follows follows (call :: rest) id
      simp only [performAll, accepted, performed] at recorded ⊢
      rw [hypothesis, links_follows follows, List.flatMap_cons, recorded, List.append_assoc]

/-! ## Rooms on one floor -/

/-- No later room was found to overlap an earlier one on its floor. -/
def Apart (building : Building α σ) : Prop :=
  building.rooms.Pairwise fun earlier later =>
    earlier.floor = later.floor → overlaps later.shape earlier.shape = false

theorem Apart.empty : (Building.empty : Building α σ).Apart := .nil

theorem Apart.follows (apart : building.Apart) (follows : building.Follows call next) :
    next.Apart := by
  cases follows with
  | room _ _ _ _ clear =>
    refine List.pairwise_append.mpr ⟨apart, List.pairwise_singleton _ _, ?_⟩
    intro earlier member later isLast sameFloor
    rw [List.mem_singleton.mp isLast] at sameFloor ⊢
    exact clear earlier member sameFloor
  | portal => exact apart
  | door => exact apart
  | locate => exact apart

/-- Where what two outlines share does not depend on their order, one comparison is enough. -/
theorem Apart.sharedArea_not_lt (apart : building.Apart)
    (symmetric : ∀ first second : σ,
      Outline.sharedArea first second = Outline.sharedArea second first)
    {first second : Room σ} (isFirst : first ∈ building.rooms) (isSecond : second ∈ building.rooms)
    (different : first ≠ second) (sameFloor : first.floor = second.floor) :
    ¬ tolerance < Outline.sharedArea first.shape second.shape := by
  let Clear : Room σ → Room σ → Prop := fun first second =>
    first.floor = second.floor → ¬ tolerance < Outline.sharedArea first.shape second.shape
  have clear : building.rooms.Pairwise Clear := by
    refine apart.imp fun {earlier later} compared level => ?_
    rw [symmetric]
    exact of_decide_eq_false (compared level)
  have symm : Std.Symm Clear := by
    refine ⟨fun first second clear level => ?_⟩
    rw [symmetric]
    exact clear level.symm
  exact clear.forall isFirst isSecond different sameFloor

/-! ## Refusals -/

omit [Scalar α] [Outline σ α] in
theorem declared_fails (building : Building α σ) (id : String) :
    FailsWith (fun fault : Fault α => fault.kind = .badValue) (building.declared id) := by
  unfold Building.declared
  split
  · exact .ok _
  · exact .error rfl

theorem addRoom_fails (building : Building α σ) (id : String) (points : List (Point α))
    (label : String) (floor : Int) :
    FailsWith (fun fault : Fault α => fault.kind = .badValue)
      (building.addRoom id points label floor) := by
  simp only [addRoom]
  split
  · exact .error rfl
  · split
    · split
      · split
        · exact .error rfl
        · refine FailsWith.bind (.ok _) fun shape _ => ?_
          split
          · exact .error rfl
          · exact .ok _
      · exact .error rfl
      · exact .error rfl
    · exact .error rfl

/-- A call on a building is refused for a bad value, if at all. -/
theorem perform_fails (building : Building α σ) (call : Call α) :
    FailsWith (fun fault : Fault α => fault.kind = .badValue) (building.perform call) := by
  cases call with
  | room id points label floor => exact addRoom_fails building id points label floor
  | portal first second point =>
    refine (declared_fails building first).bind fun near _ => ?_
    exact (declared_fails building second).bind fun target _ => .ok _
  | door id point => exact (declared_fails building id).bind fun room _ => .ok _
  | locate point floor => exact .ok _

end Building

namespace Registry

open Building (Call)

variable {α σ : Type} [Scalar α] [Outline σ α] {registry : Registry α σ} {building : Building α σ}

/-! ## All of it together -/

/-- The centre of a room. -/
def centre? (registry : Registry α σ) (id : String) : Option (Point α) :=
  (registry.shapes.find? id).map Outline.centre

omit [Scalar α] in
theorem Reflects.centre?_eq (reflects : registry.Reflects building) :
    registry.centre? = building.centre? := by
  funext id
  rw [centre?, reflects.shapes.find?_eq, Option.map_map]
  rfl

/-- A registry holds what some calls declared, and its tables are in step. -/
structure Inventory (registry : Registry α σ) (calls : List (Call α)) : Prop where
  /-- No two rooms have one id, and ids stand in order of declaration. -/
  distinct : (calls.flatMap Call.ids).Nodup
  ids_eq : registry.shapes.keys = calls.flatMap Call.ids
  /-- What has an outline has a category and a floor, and nothing else has. -/
  categories_keys : registry.categories.keys = registry.shapes.keys
  floors_keys : registry.floors.keys = registry.shapes.keys
  described : ∀ id points label floor, Call.room id points label floor ∈ calls →
    ∃ shape category, Outline.ofPoints points = .ok shape ∧
      Category.ofLabel? label = some category ∧ registry.shapes.find? id = some shape ∧
      registry.categories.find? id = some label ∧ registry.floors.find? id = some floor
  portals_declared : ∀ id ∈ registry.portals.keys, id ∈ registry.shapes.keys ∧
    ∀ portal ∈ listed registry.portals id, portal.1 ∈ registry.shapes.keys
  doors_declared : ∀ id ∈ registry.doors.keys, id ∈ registry.shapes.keys
  portals_eq : ∀ id, (listed registry.portals id).map (fun portal => (portal.1, some portal.2)) =
    calls.flatMap (Call.links registry.centre? id)
  doors_eq : ∀ id, listed registry.doors id =
    ((calls.flatMap Call.doors).filter fun door => door.room == id).map Door.point
  apart : ∀ first second shape other level, registry.shapes.find? first = some shape →
    registry.shapes.find? second = some other → first ≠ second →
    registry.floors.find? first = some level → registry.floors.find? second = some level →
    Outline.sharedArea shape other ≤ Building.tolerance
  /-- An index that is kept is one of the outlines as they are. -/
  index : ∀ tree, registry.tree = some tree →
    tree = (registry.shapes.values.map fun shape => (Outline.box shape, shape)) ∧
      registry.treeIds = registry.shapes.keys

/-- An accepted room has an outline and a category of the vocabulary, and becomes one of the
rooms. -/
theorem exists_room_of_accepted {start : Building α σ} {calls : List (Call α)} {id : String}
    {points : List (Point α)} {label : String} {floor : Int}
    (member : Call.room id points label floor ∈ start.accepted calls) :
    ∃ shape category, Outline.ofPoints points = .ok shape ∧
      Category.ofLabel? label = some category ∧
      (⟨id, shape, category, floor⟩ : Room σ) ∈ (start.performAll calls).rooms := by
  induction calls generalizing start with
  | nil => exact absurd member List.not_mem_nil
  | cons call rest hypothesis =>
    rw [Building.accepted] at member
    rw [Building.performAll]
    cases performed : start.perform call with
    | error fault =>
      rw [performed] at member
      exact hypothesis member
    | ok next =>
      rw [performed] at member
      rcases List.mem_cons.mp member with rfl | later
      · cases Building.follows_of_perform performed with
        | @room _ _ _ _ category shape _ known bounded =>
          rcases Building.exists_rooms_performAll
            ({ start with rooms := start.rooms ++ [⟨id, shape, category, floor⟩], index := none } :
              Building α σ) rest with ⟨added, rooms⟩
          refine ⟨shape, category, bounded, known, ?_⟩
          dsimp only
          rw [rooms]
          exact List.mem_append_left _ (List.mem_append_right _ (List.mem_singleton.mpr rfl))
      · exact hypothesis later

theorem performAll_append (registry : Registry α σ) (early late : List (Call α)) :
    registry.performAll (early ++ late) = (registry.performAll early).performAll late := by
  induction early generalizing registry with
  | nil => rfl
  | cons call rest hypothesis => exact hypothesis _

omit [Scalar α] in
/-- What has an outline and a floor in the tables is a room. -/
theorem Reflects.exists_room_of_shape (reflects : registry.Reflects building) {id : String}
    {shape : σ} {level : Int} (isShape : registry.shapes.find? id = some shape)
    (isLevel : registry.floors.find? id = some level) :
    ∃ room ∈ building.rooms, room.id = id ∧ room.shape = shape ∧ room.floor = level := by
  rw [reflects.shapes.find?_eq] at isShape
  rw [reflects.floors.find?_eq] at isLevel
  rcases Option.map_eq_some_iff.mp isShape with ⟨room, found, rfl⟩
  rw [found] at isLevel
  have named := List.find?_some (p := fun room : Room σ => room.id == id) found
  exact ⟨room, List.mem_of_find?_eq_some found, beq_iff_eq.mp named, rfl, Option.some.inj isLevel⟩

/-- After any calls a registry holds what the accepted ones declared. -/
theorem inventory_performAll
    (symmetric : ∀ first second : σ,
      Outline.sharedArea first second = Outline.sharedArea second first)
    (measured : ∀ first second : σ, Outline.sharedArea first second ≤ Building.tolerance ∨
      Building.tolerance < Outline.sharedArea first second)
    (calls : List (Call α)) :
    ((empty : Registry α σ).performAll calls).Inventory
      ((empty : Registry α σ).accepted calls) := by
  let begun : Building α σ := Building.empty
  rcases reflects_performAll (σ := σ) calls with ⟨reflects, sameCalls⟩
  have consistent : (begun.performAll calls).Consistent :=
    Building.Consistent.empty.performAll calls
  have apart : (begun.performAll calls).Apart :=
    Building.performAll_keeps Building.Apart (fun accepted before => before.follows accepted)
      Building.Apart.empty calls
  have ids : (begun.performAll calls).rooms.map Room.id =
      (begun.accepted calls).flatMap Call.ids := Building.performAll_ids begun calls
  have isId : ∀ {id : String}, id ∈ (begun.performAll calls).ids →
      id ∈ ((empty : Registry α σ).performAll calls).shapes.keys := fun member =>
    reflects.shapes.keys_eq ▸ member
  rw [sameCalls]
  constructor
  case distinct => exact ids ▸ consistent.distinct
  case ids_eq => exact reflects.shapes.keys_eq.trans ids
  case categories_keys => exact reflects.categories.keys_eq.trans reflects.shapes.keys_eq.symm
  case floors_keys => exact reflects.floors.keys_eq.trans reflects.shapes.keys_eq.symm
  case described =>
    intro id points label floor member
    rcases exists_room_of_accepted member with ⟨shape, category, bounded, known, isRoom⟩
    have found : (begun.performAll calls).rooms.find? (fun room => room.id == id) =
      some ⟨id, shape, category, floor⟩ := consistent.room?_of_mem isRoom
    refine ⟨shape, category, bounded, known, ?_, ?_, ?_⟩
    · rw [reflects.shapes.find?_eq, found]
      rfl
    · rw [reflects.categories.find?_eq, found, ← Category.label_of_ofLabel? known]
      rfl
    · rw [reflects.floors.find?_eq, found]
      rfl
  case portals_declared =>
    intro id member
    refine ⟨isId (reflects.portals_declared id member), fun portal isPortal => ?_⟩
    rw [reflects.portals] at isPortal
    rcases List.mem_map.mp isPortal with ⟨recorded, isRecorded, rfl⟩
    exact isId (consistent.portal_declared recorded (List.mem_filter.mp isRecorded).1).2
  case doors_declared => exact fun id member => isId (reflects.doors_declared id member)
  case portals_eq =>
    intro id
    have recorded := Building.links_performAll begun calls id
    rw [reflects.portals, List.map_map]
    rw [reflects.centre?_eq]
    exact recorded
  case doors_eq =>
    intro id
    rw [reflects.doors, Building.performAll_doors]
    rfl
  case apart =>
    intro first second shape other level isShape isOther different isLevel alsoLevel
    rcases reflects.exists_room_of_shape isShape isLevel with ⟨near, isNear, rfl, rfl, sameLevel⟩
    rcases reflects.exists_room_of_shape isOther alsoLevel with ⟨far, isFar, rfl, rfl, rfl⟩
    have notMore := apart.sharedArea_not_lt symmetric isNear isFar
      (fun same => different (congrArg Room.id same)) sameLevel
    exact (measured near.shape far.shape).resolve_right notMore
  case index => exact reflects.index

/-- A call is refused for a bad value, if at all, and before anything was written. -/
theorem Reflects.of_refused (reflects : registry.Reflects building)
    (consistent : building.Consistent) (current : building.Current) {call : Call α}
    {fault : Fault α} {after : Registry α σ}
    (refused : (Registry.perform call).run registry = (.error fault, after)) :
    fault.kind = .badValue ∧ after = registry := by
  have agrees := reflects.perform consistent current call
  rw [refused] at agrees
  cases performed : building.perform call with
  | ok next =>
    rw [performed] at agrees
    rcases agrees with ⟨⟨answer, impossible⟩, -⟩
    cases impossible
  | error other =>
    rw [performed] at agrees
    have same : ((.error fault, after) : Except (Fault α) (Option String) × Registry α σ) =
      (.error other, registry) := agrees
    cases same
    exact ⟨Building.perform_fails _ call fault performed, rfl⟩

/-- After any calls a registry holds what the accepted ones declared.  A further call that is
refused is refused for a bad value and leaves the registry as it was, so that whatever comes after
it, the registry is as if the call had not been made.  Shared areas are to be numbers that do not
depend on the order of the outlines. -/
theorem inventory_of_calls
    (symmetric : ∀ first second : σ,
      Outline.sharedArea first second = Outline.sharedArea second first)
    (measured : ∀ first second : σ, Outline.sharedArea first second ≤ Building.tolerance ∨
      Building.tolerance < Outline.sharedArea first second)
    (calls : List (Call α)) :
    let start : Registry α σ := empty
    (start.performAll calls).Inventory (start.accepted calls) ∧
    ∀ call fault after, (perform call).run (start.performAll calls) = (.error fault, after) →
      fault.kind = .badValue ∧ after = start.performAll calls ∧ ∀ later,
        start.performAll (calls ++ call :: later) = start.performAll (calls ++ later) := by
  intro start
  refine ⟨inventory_performAll symmetric measured calls, fun call fault after refused => ?_⟩
  rcases (reflects_performAll calls).1.of_refused (Building.Consistent.empty.performAll calls)
    (Building.Current.empty.performAll calls) refused with ⟨isBad, rfl⟩
  refine ⟨isBad, rfl, fun later => ?_⟩
  rw [performAll_append, performAll_append, performAll, refused]

/-- A room that overlaps the first two rooms of the row. -/
def alcove : Call Rat := .room "ALCOVE" [⟨1, 1⟩, ⟨3, 1⟩, ⟨3, 3⟩, ⟨1, 3⟩] "floor" 0

theorem inventory_of_row :
    let start : Registry Rat (Box Rat) := empty
    (start.performAll Building.rowCalls).Inventory (start.accepted Building.rowCalls) ∧
    ∃ fault after,
      (perform alcove).run (start.performAll Building.rowCalls) = (.error fault, after) ∧
      fault.kind = .badValue ∧ after = start.performAll Building.rowCalls ∧ ∀ later,
        start.performAll (Building.rowCalls ++ alcove :: later) =
          start.performAll (Building.rowCalls ++ later) := by
  intro start
  rcases inventory_of_calls (LawfulOutline.sharedArea_comm (σ := Box Rat))
    (fun first second => le_or_gt _ _) Building.rowCalls with ⟨inventory, refusals⟩
  refine ⟨inventory, ?_⟩
  have refused : ((perform alcove).run (start.performAll Building.rowCalls)).1.isOk = false := by
    decide +kernel
  rcases performed : (perform alcove).run (start.performAll Building.rowCalls) with
    ⟨fault | answer, after⟩
  · exact ⟨fault, after, rfl, refusals alcove fault after performed⟩
  · rw [performed] at refused
    cases refused

end Registry

end Egress
