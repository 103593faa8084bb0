import Egress.Proofs.Locating
import Egress.Proofs.Writes

/-!
# A building in separate tables

A building lists its rooms as records, and a declaration either is refused or gives another
building.  A registry holds the same in separate tables: outlines, categories and floors under the
ids of rooms, portals and doors under the rooms that they belong to, and an index of the outlines
beside a list of ids.  Here every call is spelled out as the tests and the writes that it makes, one
after another, and what was written before a fault stands.

Nothing but the calls keeps the tables in step.  They do so because a declaration makes all its
tests before its first write, and then writes to each table.  So a registry that began empty always
reflects the building that the same calls make: no look-up in one table misses what another one
holds, the index that is kept is never outdated, and a call that is refused leaves the registry as
it was.
-/

namespace Egress

/-- What is declared of a building, in separate tables. -/
structure Registry (α σ : Type) where
  shapes : Table String σ
  /-- The words for the categories of the rooms. -/
  categories : Table String String
  floors : Table String Int
  /-- The rooms behind the portals of a room, with the points where the portals are. -/
  portals : Table String (List (String × Point α))
  doors : Table String (List (Point α))
  /-- The outlines with the boxes around them, if an index was made since the last declaration of a
  room. -/
  tree : Option (List (Box α × σ))
  /-- The ids of the rooms in the order of the index that was made last. -/
  treeIds : List String

namespace Registry

open Update

variable {α β σ : Type}

def empty : Registry α σ := ⟨∅, ∅, ∅, ∅, ∅, none, []⟩

/-- What a table holds under an id, if it holds anything. -/
def held (table : Table String β) (id : String) : Except (Fault α) β :=
  match table.find? id with
  | some value => .ok value
  | none => .error (.noRegionNamed id)

/-- What is listed under an id, if anything is. -/
def listed (table : Table String (List β)) (id : String) : List β := (table.find? id).getD []

/-- List an entry under an id, behind the others. -/
def extend (table : Table String (List β)) (id : String) (entry : β) : Table String (List β) :=
  table.insert id (listed table id ++ [entry])

/-- Refuse an id under which no room was declared. -/
def requireRoom (registry : Registry α σ) (id : String) : Except (Fault α) Unit :=
  if registry.shapes.contains id then .ok () else .error (.undeclaredRegion id)

variable [Scalar α] [Outline σ α]

/-- The outline of a room that is to be declared. -/
def outline (id : String) (points : List (Point α)) : Except (Fault α) σ :=
  match (Outline.ofPoints points : Except OutlineFlaw σ) with
  | .ok shape => if Outline.area shape ≤ Scalar.zero then .error (.badOutline id) else .ok shape
  | .error .tooFewPoints => .error .tooFewPoints
  | .error .notSimple => .error (.badOutline id)

/-- Refuse an outline that overlaps one of some others on its floor. -/
def requireClear (registry : Registry α σ) (id : String) (shape : σ) (floor : Int) :
    List (String × σ) → Except (Fault α) Unit
  | [] => .ok ()
  | (other, otherShape) :: rest => do
    let level ← held registry.floors other
    if level == floor && Building.overlaps shape otherShape then throw (.overlap id other)
    else registry.requireClear id shape floor rest

/-- Declare a room, write by write. -/
def addRoom (id : String) (points : List (Point α)) (label : String) (floor : Int) :
    Update (Registry α σ) α PUnit := do
  let registry ← get
  if registry.shapes.contains id then throw (.duplicateRegion id)
  else if (Category.ofLabel? label).isNone then throw (.unknownCategory (.text label))
  else
    let shape ← given (outline id points)
    given (registry.requireClear id shape floor registry.shapes.entries)
    modify fun registry => { registry with shapes := registry.shapes.insert id shape }
    modify fun registry => { registry with categories := registry.categories.insert id label }
    modify fun registry => { registry with floors := registry.floors.insert id floor }
    modify fun registry => { registry with tree := none }

/-- Join two rooms, write by write: first on the side of the one, then on that of the other. -/
def addPortal (first second : String) (point : Option (Point α)) :
    Update (Registry α σ) α PUnit := do
  let registry ← get
  given (registry.requireRoom first)
  given (registry.requireRoom second)
  let point ← given (match point with
    | some point => .ok point
    | none => (held registry.shapes second).map Outline.centre)
  modify fun registry => { registry with
    portals := extend registry.portals first (second, point) }
  modify fun registry => { registry with
    portals := extend registry.portals second (first, point) }

omit [Scalar α] [Outline σ α] in
/-- Declare a door, write by write. -/
def addDoor (id : String) (point : Point α) : Update (Registry α σ) α PUnit := do
  let registry ← get
  given (registry.requireRoom id)
  modify fun registry => { registry with doors := extend registry.doors id point }

/-- The index that was kept, or else one made now: first the ids are listed, then the outlines are
looked up. -/
def refresh : Update (Registry α σ) α (List (Box α × σ)) := do
  let registry ← get
  match registry.tree with
  | some tree => return tree
  | none =>
    modify fun registry => { registry with treeIds := registry.shapes.keys }
    let registry ← get
    let shapes ← given (registry.treeIds.mapM (held registry.shapes))
    let tree := shapes.map fun shape => (Outline.box shape, shape)
    modify fun registry => { registry with tree := some tree }
    return tree

/-- The positions of the entries of an index that pass a test, in ascending order. -/
def positions (tree : List (Box α × σ)) (wanted : Box α × σ → Bool) : List Nat :=
  (List.range tree.length).filter fun position => tree[position]?.any wanted

/-- The first id at some positions of the index whose room is on a floor. -/
def firstOn (registry : Registry α σ) (floor : Option Int) :
    List Nat → Except (Fault α) (Option String)
  | [] => .ok none
  | position :: rest =>
    match registry.treeIds[position]? with
    | none => .error .outOfRange
    | some id =>
      match floor with
      | none => .ok (some id)
      | some wanted => do
        let level ← held registry.floors id
        if level == wanted then return some id else registry.firstOn floor rest

/-- The id of the room in which a point lies, and what is kept of the index. -/
def locate (point : Point α) (floor : Option Int) : Update (Registry α σ) α (Option String) := do
  let registry ← get
  if registry.shapes.isEmpty then return none
  else
    let tree ← refresh
    let registry ← get
    given (registry.firstOn floor (positions tree fun entry =>
      entry.1.contains point && Outline.covers entry.2 point))

/-- The exits of a room to those at some positions of the index that it touches on its floor. -/
def contactsFrom (registry : Registry α σ) (id : String) (shape : σ) :
    List Nat → Except (Fault α) (List (Exit α))
  | [] => .ok []
  | position :: rest =>
    match registry.treeIds[position]? with
    | none => .error .outOfRange
    | some other =>
      if other == id then registry.contactsFrom id shape rest
      else do
        let level ← held registry.floors other
        let floor ← held registry.floors id
        if level != floor then registry.contactsFrom id shape rest
        else
          let otherShape ← held registry.shapes other
          if Building.touches shape otherShape then
            return ⟨some other, Outline.contactCentre shape otherShape⟩ ::
              (← registry.contactsFrom id shape rest)
          else registry.contactsFrom id shape rest

/-- The ways out of a room, and what is kept of the index. -/
def exits (id : String) : Update (Registry α σ) α (List (Exit α)) := do
  let registry ← get
  let shape ← given (held registry.shapes id)
  let tree ← refresh
  let registry ← get
  let contacts ← given (registry.contactsFrom id shape (positions tree fun entry =>
    (Outline.box shape).meets entry.1))
  let portals := (listed registry.portals id).map fun (other, point) => ⟨some other, point⟩
  let doors := (listed registry.doors id).map fun point => ⟨none, point⟩
  return contacts ++ portals ++ doors

/-- Make a call, write by write.  A question gives the id that it finds. -/
def perform : Building.Call α → Update (Registry α σ) α (Option String)
  | .room id points label floor => do
    addRoom id points label floor
    return none
  | .portal first second point => do
    addPortal first second point
    return none
  | .door id point => do
    addDoor id point
    return none
  | .locate point floor => locate point floor

/-- The registry after some calls, whatever became of them. -/
def performAll (registry : Registry α σ) : List (Building.Call α) → Registry α σ
  | [] => registry
  | call :: rest => ((perform call).run registry).2.performAll rest

/-- The calls that are not refused. -/
def accepted (registry : Registry α σ) : List (Building.Call α) → List (Building.Call α)
  | [] => []
  | call :: rest =>
    match (perform call).run registry with
    | (.ok _, after) => call :: after.accepted rest
    | (.error _, after) => after.accepted rest

/-! ## Tables in step -/

/-- A table holds a part of every room under its id, in the order of the rooms. -/
def Lists (table : Table String β) (rooms : List (Room σ)) (part : Room σ → β) : Prop :=
  table.entries = rooms.map fun room => (room.id, part room)

namespace Lists

variable {table : Table String β} {rooms : List (Room σ)} {part : Room σ → β} {id : String}

theorem find?_eq (lists : Lists table rooms part) (id : String) :
    table.find? id = (rooms.find? fun room => room.id == id).map part := by
  unfold Table.find?
  rw [lists]
  clear lists
  induction rooms with
  | nil => rfl
  | cons room rest hypothesis =>
    rw [List.map_cons, Table.lookup, List.find?_cons]
    by_cases same : room.id = id
    · rw [if_pos same, beq_iff_eq.mpr same]
      rfl
    · rw [if_neg same, beq_eq_false_iff_ne.mpr same]
      exact hypothesis

theorem keys_eq (lists : Lists table rooms part) : table.keys = rooms.map Room.id := by
  rw [Table.keys, lists, List.map_map]
  rfl

theorem values_eq (lists : Lists table rooms part) : table.values = rooms.map part := by
  rw [Table.values, lists, List.map_map]
  rfl

theorem insert (lists : Lists table rooms part) {room : Room σ}
    (fresh : room.id ∉ rooms.map Room.id) :
    Lists (table.insert room.id (part room)) (rooms ++ [room]) part := by
  have absent : room.id ∉ table.keys := lists.keys_eq ▸ fresh
  unfold Lists
  rw [List.map_append, ← lists]
  exact Table.place_of_notMem absent (part room)

end Lists

theorem listed_extend (table : Table String (List β)) (id other : String) (entry : β) :
    listed (extend table id entry) other =
      if id = other then listed table other ++ [entry] else listed table other := by
  unfold extend
  rw [listed, Table.find?_insert]
  split
  · rename_i same
    rw [same]
    rfl
  · rfl

/-- A registry holds in its tables what a building lists. -/
structure Reflects (registry : Registry α σ) (building : Building α σ) : Prop where
  shapes : Lists registry.shapes building.rooms Room.shape
  categories : Lists registry.categories building.rooms fun room => room.category.label
  floors : Lists registry.floors building.rooms Room.floor
  portals : ∀ id, listed registry.portals id =
    (building.portals.filter fun portal => portal.source == id).map fun portal =>
      (portal.target, portal.point)
  portals_declared : ∀ id ∈ registry.portals.keys, id ∈ building.ids
  doors : ∀ id, listed registry.doors id =
    (building.doors.filter fun door => door.room == id).map Door.point
  doors_declared : ∀ id ∈ registry.doors.keys, id ∈ building.ids
  /-- An index that is kept holds the outlines, and the ids beside it are theirs. -/
  index : ∀ tree, registry.tree = some tree →
    tree = (registry.shapes.values.map fun shape => (Outline.box shape, shape)) ∧
      registry.treeIds = registry.shapes.keys

variable {registry : Registry α σ} {building : Building α σ}

namespace Reflects

omit [Scalar α] in
theorem empty : (Registry.empty : Registry α σ).Reflects Building.empty where
  shapes := rfl
  categories := rfl
  floors := rfl
  portals _ := rfl
  portals_declared _ impossible := absurd impossible List.not_mem_nil
  doors _ := rfl
  doors_declared _ impossible := absurd impossible List.not_mem_nil
  index _ impossible := by cases impossible

omit [Scalar α] in
theorem contains_eq (reflects : registry.Reflects building) (id : String) :
    registry.shapes.contains id = (building.room? id).isSome := by
  rw [Table.contains, reflects.shapes.find?_eq, Option.isSome_map]
  rfl

omit [Scalar α] in
/-- Under the id of a room its outline is found. -/
theorem held_shape (reflects : registry.Reflects building) {id : String} {room : Room σ}
    (isRoom : building.room? id = some room) :
    (held registry.shapes id : Except (Fault α) σ) = .ok room.shape := by
  have found : building.rooms.find? (fun room => room.id == id) = some room := isRoom
  simp only [held, reflects.shapes.find?_eq, found, Option.map_some]

omit [Scalar α] in
/-- Under the id of a room its floor is found. -/
theorem held_floor (reflects : registry.Reflects building) {id : String} {room : Room σ}
    (isRoom : building.room? id = some room) :
    (held registry.floors id : Except (Fault α) Int) = .ok room.floor := by
  have found : building.rooms.find? (fun room => room.id == id) = some room := isRoom
  simp only [held, reflects.floors.find?_eq, found, Option.map_some]

omit [Scalar α] in
theorem requireRoom_eq (reflects : registry.Reflects building) (id : String) :
    registry.requireRoom id = (building.declared id).map fun _ => () := by
  rw [requireRoom, reflects.contains_eq, Building.declared]
  cases building.room? id <;> rfl

end Reflects

/-! ## Tests before writes -/

/-- What becomes of a registry if all tests are made before the first write. -/
def settled (registry : Registry α σ) (tests : Except (Fault α) β)
    (written : β → Registry α σ) : Except (Fault α) (Option String) × Registry α σ :=
  match tests with
  | .ok value => (.ok none, written value)
  | .error fault => (.error fault, registry)

/-- The tests before a room is declared. -/
def admitRoom (registry : Registry α σ) (id : String) (points : List (Point α)) (label : String)
    (floor : Int) : Except (Fault α) σ :=
  if registry.shapes.contains id then .error (.duplicateRegion id)
  else if (Category.ofLabel? label).isNone then .error (.unknownCategory (.text label))
  else do
    let shape ← outline id points
    registry.requireClear id shape floor registry.shapes.entries
    return shape

/-- All that is written for a room. -/
def withRoom (registry : Registry α σ) (id label : String) (floor : Int) (shape : σ) :
    Registry α σ :=
  { registry with
    shapes := registry.shapes.insert id shape
    categories := registry.categories.insert id label
    floors := registry.floors.insert id floor
    tree := none }

theorem run_room (id : String) (points : List (Point α)) (label : String) (floor : Int) :
    (perform (.room id points label floor)).run registry =
      registry.settled (registry.admitRoom id points label floor)
        (registry.withRoom id label floor) := by
  simp only [perform, addRoom, admitRoom]
  rw [run_bind, run_get]
  by_cases taken : registry.shapes.contains id = true
  · rw [if_pos taken, if_pos taken]
    rfl
  · rw [if_neg taken, if_neg taken]
    by_cases unknown : (Category.ofLabel? label).isNone = true
    · rw [if_pos unknown, if_pos unknown]
      rfl
    · rw [if_neg unknown, if_neg unknown, run_given]
      cases (outline id points : Except (Fault α) σ) with
      | error fault => rfl
      | ok shape =>
        dsimp only
        rw [run_given]
        cases cleared : registry.requireClear id shape floor registry.shapes.entries with
        | error fault => simp only [settled, bind, Except.bind, cleared]
        | ok _ => simp only [settled, bind, Except.bind, cleared]; rfl

/-- The tests before a portal is declared, and the point where it is. -/
def admitPortal (registry : Registry α σ) (first second : String) (point : Option (Point α)) :
    Except (Fault α) (Point α) := do
  registry.requireRoom first
  registry.requireRoom second
  match point with
  | some point => .ok point
  | none => (held registry.shapes second).map Outline.centre

omit [Scalar α] [Outline σ α] in
/-- All that is written for a portal. -/
def withPortal (registry : Registry α σ) (first second : String) (point : Point α) :
    Registry α σ :=
  { registry with
    portals := extend (extend registry.portals first (second, point)) second (first, point) }

theorem run_portal (first second : String) (point : Option (Point α)) :
    (perform (.portal first second point)).run registry =
      registry.settled (registry.admitPortal first second point)
        (registry.withPortal first second) := by
  simp only [perform, addPortal, admitPortal]
  rw [run_bind, run_get, run_given]
  cases registry.requireRoom first with
  | error fault => rfl
  | ok _ =>
    dsimp only
    rw [run_given]
    cases registry.requireRoom second with
    | error fault => rfl
    | ok _ =>
      dsimp only
      rw [run_given]
      cases point with
      | some point => rfl
      | none => cases (held registry.shapes second : Except (Fault α) σ) <;> rfl

theorem run_door (id : String) (point : Point α) :
    (perform (.door id point)).run registry =
      registry.settled (registry.requireRoom id) fun _ =>
        { registry with doors := extend registry.doors id point } := by
  simp only [perform, addDoor]
  rw [run_bind, run_get, run_given]
  cases registry.requireRoom id <;> rfl

namespace Reflects

/-- Comparing an outline with others in the tables is comparing it with their rooms. -/
theorem requireClear_eq (reflects : registry.Reflects building) (consistent : building.Consistent)
    (id : String) (shape : σ) (floor : Int) {rooms : List (Room σ)}
    (within : rooms ⊆ building.rooms) :
    registry.requireClear id shape floor (rooms.map fun room => (room.id, room.shape)) =
      match rooms.find? fun other =>
        other.floor == floor && Building.overlaps shape other.shape with
      | some other => .error (.overlap id other.id)
      | none => .ok () := by
  induction rooms with
  | nil => rfl
  | cons room rest hypothesis =>
    have isRoom := consistent.room?_of_mem (within List.mem_cons_self)
    have onward := hypothesis fun other member => within (List.mem_cons_of_mem _ member)
    rw [List.map_cons, requireClear, reflects.held_floor isRoom, List.find?_cons]
    cases clash : room.floor == floor && Building.overlaps shape room.shape with
    | true => exact if_pos clash
    | false => exact (if_neg (Bool.eq_false_iff.mp clash)).trans onward

/-- A room is admitted to the registry as it is to the building. -/
theorem addRoom_eq (reflects : registry.Reflects building) (consistent : building.Consistent)
    (id : String) (points : List (Point α)) (label : String) (floor : Int) :
    building.addRoom id points label floor =
      (registry.admitRoom id points label floor).map fun shape =>
        { building with
          rooms := building.rooms ++ [⟨id, shape, (Category.ofLabel? label).getD default, floor⟩]
          index := none } := by
  simp only [Building.addRoom, admitRoom, reflects.contains_eq]
  split
  · rfl
  · cases Category.ofLabel? label with
    | none => rfl
    | some category =>
      unfold outline
      cases (Outline.ofPoints points : Except OutlineFlaw σ) with
      | error flaw => cases flaw <;> rfl
      | ok shape =>
        dsimp only
        split
        · rfl
        · have compared := reflects.requireClear_eq consistent id shape floor (List.Subset.refl _)
          rw [← reflects.shapes] at compared
          rw [if_neg (by simp)]
          simp only [bind, Except.bind, compared]
          cases building.rooms.find? fun other =>
            other.floor == floor && Building.overlaps shape other.shape <;> rfl

omit [Scalar α] in
theorem addPortal_eq (reflects : registry.Reflects building) (first second : String)
    (point : Option (Point α)) :
    building.addPortal first second point =
      (registry.admitPortal first second point).map fun point =>
        { building with
          portals := building.portals ++ [⟨first, second, point⟩, ⟨second, first, point⟩] } := by
  simp only [Building.addPortal, admitPortal, reflects.requireRoom_eq]
  cases building.declared first with
  | error fault => rfl
  | ok near =>
    cases isDeclared : building.declared second with
    | error fault => rfl
    | ok target =>
      cases point with
      | some point => rfl
      | none =>
        have isRoom := Building.room?_of_declared isDeclared
        simp only [Except.map, bind, Except.bind, reflects.held_shape isRoom]
        rfl

omit [Scalar α] in
theorem addDoor_eq (reflects : registry.Reflects building) (id : String) (point : Point α) :
    building.addDoor id point =
      (registry.requireRoom id).map fun _ =>
        { building with doors := building.doors ++ [⟨id, point⟩] } := by
  rw [reflects.requireRoom_eq, Building.addDoor]
  cases building.declared id <;> rfl

/-! ## What is written -/

theorem withRoom (reflects : registry.Reflects building) {id : String} {points : List (Point α)}
    {label : String} {floor : Int} {shape : σ}
    (admitted : registry.admitRoom id points label floor = .ok shape) :
    (registry.withRoom id label floor shape).Reflects
      { building with
        rooms := building.rooms ++ [⟨id, shape, (Category.ofLabel? label).getD default, floor⟩]
        index := none } := by
  unfold admitRoom at admitted
  split at admitted
  · cases admitted
  · rename_i free
    split at admitted
    · cases admitted
    · rename_i known
      let room : Room σ := ⟨id, shape, (Category.ofLabel? label).getD default, floor⟩
      have fresh : room.id ∉ building.rooms.map Room.id := by
        rw [← reflects.shapes.keys_eq, ← Table.contains_iff_mem_keys]
        exact free
      have labelled : room.category.label = label := by
        cases found : Category.ofLabel? label with
        | none => exact absurd (Option.isNone_iff_eq_none.mpr found) known
        | some category =>
          rw [← Category.label_of_ofLabel? found]
          exact congrArg (fun known => (Option.getD known default).label) found
      have grown : ∀ other ∈ building.ids, other ∈ (building.rooms ++ [room]).map Room.id := by
        intro other member
        rw [List.map_append]
        exact List.mem_append_left _ member
      have categories : Lists (registry.categories.insert id label) (building.rooms ++ [room])
          fun room => room.category.label := by
        rw [← labelled]
        exact reflects.categories.insert fresh
      exact
        { shapes := reflects.shapes.insert fresh
          categories := categories
          floors := reflects.floors.insert fresh
          portals := reflects.portals
          portals_declared := fun other member =>
            grown other (reflects.portals_declared other member)
          doors := reflects.doors
          doors_declared := fun other member => grown other (reflects.doors_declared other member)
          index := fun tree impossible => by cases impossible }

omit [Scalar α] in
theorem mem_ids_of_requireRoom (reflects : registry.Reflects building) {id : String}
    (declared : registry.requireRoom id = .ok ()) : id ∈ building.ids := by
  rw [reflects.requireRoom_eq] at declared
  cases found : building.declared id with
  | error fault =>
    rw [found] at declared
    cases declared
  | ok room => exact Building.mem_ids_iff.mpr ⟨room, Building.room?_of_declared found⟩

omit [Scalar α] in
theorem withPortal (reflects : registry.Reflects building) {first second : String}
    {given : Option (Point α)} {point : Point α}
    (admitted : registry.admitPortal first second given = .ok point) :
    (registry.withPortal first second point).Reflects
      { building with
        portals := building.portals ++ [⟨first, second, point⟩, ⟨second, first, point⟩] } := by
  rcases bind_eq_ok.mp admitted with ⟨_, isFirst, rest⟩
  rcases bind_eq_ok.mp rest with ⟨_, isSecond, -⟩
  refine { reflects with portals := fun id => ?_, portals_declared := fun id member => ?_ }
  · simp only [Registry.withPortal, listed_extend, reflects.portals id, List.filter_append,
      List.map_append]
    by_cases atFirst : first = id <;> by_cases atSecond : second = id <;>
      simp [atFirst, atSecond]
  · rcases Table.mem_keys_insert.mp member with rfl | before
    · exact reflects.mem_ids_of_requireRoom isSecond
    · rcases Table.mem_keys_insert.mp before with rfl | old
      · exact reflects.mem_ids_of_requireRoom isFirst
      · exact reflects.portals_declared id old

omit [Scalar α] in
theorem withDoor (reflects : registry.Reflects building) {room : String}
    (admitted : registry.requireRoom room = .ok ()) (point : Point α) :
    ({ registry with doors := extend registry.doors room point } : Registry α σ).Reflects
      { building with doors := building.doors ++ [⟨room, point⟩] } := by
  refine { reflects with doors := fun id => ?_, doors_declared := fun id member => ?_ }
  · simp only [listed_extend, reflects.doors id, List.filter_append, List.map_append]
    by_cases here : room = id <;> simp [here]
  · rcases Table.mem_keys_insert.mp member with rfl | old
    · exact reflects.mem_ids_of_requireRoom admitted
    · exact reflects.doors_declared id old

end Reflects

/-! ## The index -/

namespace Reflects

omit [Scalar α] in
/-- The outlines are indexed as they stand, whether the index was kept or is made. -/
theorem run_refresh (reflects : registry.Reflects building) (consistent : building.Consistent) :
    ∃ after, ExceptT.run refresh registry =
        (.ok (building.rooms.map fun room => (Outline.box room.shape, room.shape)), after) ∧
      after.Reflects building ∧ after.treeIds = building.ids := by
  have boxed : (registry.shapes.values.map fun shape => (Outline.box shape, shape)) =
      building.rooms.map fun room => (Outline.box room.shape, room.shape) := by
    rw [reflects.shapes.values_eq, List.map_map]
    rfl
  unfold refresh
  rw [run_get]
  cases kept : registry.tree with
  | some tree =>
    rcases reflects.index tree kept with ⟨rfl, isIds⟩
    refine ⟨registry, ?_, reflects, isIds.trans reflects.shapes.keys_eq⟩
    rw [← boxed]
    rfl
  | none =>
    have found : registry.shapes.keys.mapM (held registry.shapes) =
        (.ok (building.rooms.map Room.shape) : Except (Fault α) _) := by
      rw [reflects.shapes.keys_eq, mapM_eq_ok_iff, List.forall₂_map_left_iff,
        List.forall₂_map_right_iff, List.forall₂_same]
      exact fun room member => reflects.held_shape (consistent.room?_of_mem member)
    dsimp only
    rw [run_modify, run_get, run_given, found]
    refine ⟨_, congrArg (·, _) (congrArg Except.ok List.map_map), ?_, reflects.shapes.keys_eq⟩
    refine { reflects with index := fun tree same => ⟨?_, rfl⟩ }
    rw [← Option.some.inj same, boxed, List.map_map]
    rfl

omit [Scalar α] [Outline σ α] in
/-- What is asked about outlines in an index is asked about their rooms. -/
theorem positions_eq (rooms : List (Room σ)) (entry : Room σ → Box α × σ)
    (wanted : Box α × σ → Bool) :
    positions (rooms.map entry) wanted = (List.range rooms.length).filter fun position =>
      rooms[position]?.any (wanted ∘ entry) := by
  unfold positions
  rw [List.length_map]
  refine List.filter_congr fun position _ => ?_
  rw [List.getElem?_map, Option.any_map]
  rfl

omit [Scalar α] [Outline σ α] in
/-- Going through the positions of wanted entries finds the wanted entries. -/
theorem filterMap_wanted (wanted : β → Bool) (entries : List β) :
    ((List.range entries.length).filter fun position => entries[position]?.any wanted).filterMap
      (fun position => entries[position]?) = entries.filter wanted := by
  induction entries with
  | nil => rfl
  | cons entry rest hypothesis =>
    rw [List.length_cons, List.range_succ_eq_map, List.filter_cons, List.filter_map]
    -- The positions behind the first one are those of the rest, moved by one.
    have later : (((List.range rest.length).filter
        ((fun position => (entry :: rest)[position]?.any wanted) ∘ Nat.succ)).map
          Nat.succ).filterMap (fun position => (entry :: rest)[position]?) =
        rest.filter wanted := by
      rw [List.filterMap_map]
      exact hypothesis
    rw [List.getElem?_cons_zero, Option.any_some, List.filter_cons]
    split
    · rw [List.filterMap_cons, List.getElem?_cons_zero, later]
    · exact later

omit [Scalar α] [Outline σ α] in
/-- At each position of the index is the id of a room. -/
theorem exists_room (consistent : building.Consistent)
    (listed : registry.treeIds = building.ids) {position : Nat}
    (inside : position < building.rooms.length) :
    ∃ room, building.rooms[position]? = some room ∧
      registry.treeIds[position]? = some room.id ∧ building.room? room.id = some room := by
  have found := List.getElem?_eq_getElem inside
  refine ⟨_, found, ?_, consistent.room?_of_mem (List.mem_of_getElem? found)⟩
  rw [listed, Building.ids, List.getElem?_map, found]
  rfl

omit [Scalar α] in
/-- The first id at some positions is that of the first room there. -/
theorem firstOn_eq (reflects : registry.Reflects building) (consistent : building.Consistent)
    (listed : registry.treeIds = building.ids) (floor : Option Int) {hits : List Nat}
    (inside : ∀ position ∈ hits, position < building.rooms.length) :
    (registry.firstOn floor hits : Except (Fault α) _) =
      .ok ((hits.findSome? fun position => building.rooms[position]?.filter fun room =>
        floor.all fun level => room.floor == level).map Room.id) := by
  induction hits with
  | nil => rfl
  | cons position rest hypothesis =>
    have onward := hypothesis fun other member => inside other (List.mem_cons_of_mem _ member)
    rcases exists_room consistent listed (inside position List.mem_cons_self) with
      ⟨room, found, isId, isRoom⟩
    rw [firstOn, isId, List.findSome?_cons, found, Option.filter_some]
    cases floor with
    | none => rfl
    | some wanted =>
      have chosen : (some wanted).all (fun level => room.floor == level) = (room.floor == wanted) :=
        rfl
      simp only [reflects.held_floor isRoom, bind, Except.bind, chosen]
      cases room.floor == wanted with
      | true => rfl
      | false => exact onward

/-- A point is located in the room in which the building locates it. -/
theorem run_locate (reflects : registry.Reflects building) (consistent : building.Consistent)
    (current : building.Current) (point : Point α) (floor : Option Int) :
    ∃ after, ExceptT.run (locate point floor) registry =
        (.ok ((building.roomAt? point floor).map Room.id), after) ∧
      after.Reflects (building.locate point floor).2 := by
  unfold locate
  rw [run_get, current.roomAt?_eq]
  by_cases nothing : registry.shapes.isEmpty = true
  · have noRooms : building.rooms = [] := by
      have noEntries := List.isEmpty_iff.mp nothing
      rw [reflects.shapes] at noEntries
      exact List.map_eq_nil_iff.mp noEntries
    rw [if_pos nothing, noRooms]
    exact ⟨registry, rfl, { reflects with }⟩
  · rcases reflects.run_refresh consistent with ⟨after, refreshed, still, listed⟩
    rw [if_neg nothing, run_bind, refreshed]
    dsimp only
    rw [run_get, positions_eq]
    refine ⟨after, congrArg (·, after) ((still.firstOn_eq consistent listed floor ?_).trans ?_),
      { still with }⟩
    · exact fun position member => List.mem_range.mp (List.mem_filter.mp member).1
    · rw [Building.findSome?_wanted]
      rfl

/-- The exits at some positions of the index are those to the rooms there that a room touches. -/
theorem contactsFrom_eq (reflects : registry.Reflects building) (consistent : building.Consistent)
    (listed : registry.treeIds = building.ids) {room : Room σ}
    (isRoom : building.room? room.id = some room) {near : List Nat}
    (inside : ∀ position ∈ near, position < building.rooms.length) :
    registry.contactsFrom room.id room.shape near =
      .ok (((near.filterMap fun position => building.rooms[position]?).filter fun other =>
        other.id != room.id && other.floor == room.floor &&
          Building.touches room.shape other.shape).map fun other =>
            ⟨some other.id, Outline.contactCentre room.shape other.shape⟩) := by
  induction near with
  | nil => rfl
  | cons position rest hypothesis =>
    have onward := hypothesis fun other member => inside other (List.mem_cons_of_mem _ member)
    rcases exists_room consistent listed (inside position List.mem_cons_self) with
      ⟨other, found, isId, isOther⟩
    rw [contactsFrom, isId, List.filterMap_cons, found, List.filter_cons, onward]
    simp only [reflects.held_floor isRoom, reflects.held_floor isOther, reflects.held_shape isOther,
      bind, Except.bind, pure, Except.pure]
    by_cases self : other.id = room.id
    · simp [self]
    · by_cases level : other.floor = room.floor
      · by_cases touching : Building.touches room.shape other.shape = true
        · simp [self, level, touching]
        · simp [self, level, touching]
      · simp [self, level]

/-- The exits of a room are those that the building has.  Outlines that touch are taken to have
boxes that meet. -/
theorem run_exits
    (meet : ∀ first second : σ, Building.touches first second = true →
      (Outline.box first).meets (Outline.box second) = true)
    (reflects : registry.Reflects building) (consistent : building.Consistent) (id : String) :
    ∃ after, ExceptT.run (exits id) registry = (building.exits id, after) ∧
      after.Reflects building := by
  unfold exits
  rw [run_get, run_given]
  cases found : building.room? id with
  | none =>
    have missing : (held registry.shapes id : Except (Fault α) σ) = .error (.noRegionNamed id) := by
      have nothing : building.rooms.find? (fun room => room.id == id) = none := found
      simp only [held, reflects.shapes.find?_eq, nothing, Option.map_none]
    have refused : building.exits id = .error (.noRegionNamed id) := by
      simp only [Building.exits, Building.room, found]
      rfl
    rw [missing, refused]
    exact ⟨registry, rfl, reflects⟩
  | some room =>
    have named : room.id = id := beq_iff_eq.mp
      (List.find?_some (p := fun room : Room σ => room.id == id) found)
    subst named
    have isRoom : room ∈ building.rooms := List.mem_of_find?_eq_some found
    rcases reflects.run_refresh consistent with ⟨after, refreshed, still, listed⟩
    have contacts : after.contactsFrom room.id room.shape ((List.range building.rooms.length).filter
        fun position => building.rooms[position]?.any fun other =>
          (Outline.box room.shape).meets (Outline.box other.shape)) =
        .ok (building.contacts room) := by
      rw [still.contactsFrom_eq consistent listed found fun position member =>
        List.mem_range.mp (List.mem_filter.mp member).1, filterMap_wanted, List.filter_filter]
      refine congrArg Except.ok (congrArg (List.map _) (List.filter_congr fun other _ => ?_))
      cases touching : Building.touches room.shape other.shape with
      | true => rw [meet _ _ touching, Bool.and_true]
      | false => rw [Bool.and_false, Bool.false_and]
    rw [reflects.held_shape found, consistent.exits_eq isRoom]
    dsimp only
    rw [run_bind, refreshed]
    dsimp only
    rw [run_get, positions_eq, run_given]
    refine ⟨after, ?_, still⟩
    have looked : (fun other : Room σ => (Outline.box room.shape).meets (Outline.box other.shape)) =
      (fun entry : Box α × σ => (Outline.box room.shape).meets entry.1) ∘
        fun other => (Outline.box other.shape, other.shape) := rfl
    rw [← looked, contacts]
    dsimp only
    rw [still.portals, still.doors, List.map_map, List.map_map]
    rfl

end Reflects

/-! ## Runs of calls -/

/-- A call on the registry ends as one on a building does.  If it is accepted the registry reflects
the building after it, and if it is refused nothing was written. -/
def Agrees (registry : Registry α σ) (computed : Except (Fault α) (Building α σ))
    (ran : Except (Fault α) (Option String) × Registry α σ) : Prop :=
  match computed with
  | .ok next => (∃ answer, ran.1 = .ok answer) ∧ ran.2.Reflects next
  | .error fault => ran = (.error fault, registry)

omit [Scalar α] in
theorem agrees_settled {tests : Except (Fault α) β} {written : β → Registry α σ}
    {grown : β → Building α σ} {computed : Except (Fault α) (Building α σ)}
    (same : computed = tests.map grown)
    (each : ∀ value, tests = .ok value → (written value).Reflects (grown value)) :
    registry.Agrees computed (registry.settled tests written) := by
  subst same
  cases tests with
  | error fault => rfl
  | ok value => exact ⟨⟨none, rfl⟩, each value rfl⟩

/-- Every call agrees with the one on the building. -/
theorem Reflects.perform (reflects : registry.Reflects building)
    (consistent : building.Consistent) (current : building.Current) (call : Building.Call α) :
    registry.Agrees (building.perform call) ((perform call).run registry) := by
  cases call with
  | room id points label floor =>
    rw [run_room]
    exact agrees_settled (reflects.addRoom_eq consistent id points label floor)
      fun shape admitted => reflects.withRoom admitted
  | portal first second point =>
    rw [run_portal]
    exact agrees_settled (reflects.addPortal_eq first second point)
      fun point admitted => reflects.withPortal admitted
  | door id point =>
    rw [run_door]
    exact agrees_settled (reflects.addDoor_eq id point)
      fun _ admitted => reflects.withDoor admitted point
  | locate point floor =>
    rcases reflects.run_locate consistent current point floor with ⟨after, ran, still⟩
    rw [Registry.perform, ran]
    exact ⟨⟨_, rfl⟩, still⟩

/-- Whatever calls are made, the registry reflects the building, and the same calls are accepted. -/
theorem Reflects.performAll (reflects : registry.Reflects building)
    (consistent : building.Consistent) (current : building.Current)
    (calls : List (Building.Call α)) :
    (registry.performAll calls).Reflects (building.performAll calls) ∧
      registry.accepted calls = building.accepted calls := by
  induction calls generalizing registry building with
  | nil => exact ⟨reflects, rfl⟩
  | cons call rest hypothesis =>
    have agrees := reflects.perform consistent current call
    rw [Registry.performAll, Registry.accepted, Building.performAll, Building.accepted]
    cases performed : building.perform call with
    | error fault =>
      rw [performed] at agrees
      rw [show (Registry.perform call).run registry = (.error fault, registry) from agrees]
      exact hypothesis reflects consistent current
    | ok next =>
      rw [performed] at agrees
      rcases ran : (Registry.perform call).run registry with ⟨result, after⟩
      rw [ran] at agrees
      rcases agrees with ⟨⟨answer, rfl⟩, still⟩
      have follows := Building.follows_of_perform performed
      have onward := hypothesis still (consistent.follows follows) (current.follows follows)
      exact ⟨onward.1, congrArg (call :: ·) onward.2⟩

/-- A registry that began empty reflects the building that the same calls make. -/
theorem reflects_performAll (calls : List (Building.Call α)) :
    ((empty : Registry α σ).performAll calls).Reflects
        ((Building.empty : Building α σ).performAll calls) ∧
      (empty : Registry α σ).accepted calls = (Building.empty : Building α σ).accepted calls :=
  Reflects.empty.performAll Building.Consistent.empty Building.Current.empty calls

end Registry

end Egress
