import Egress.Proofs.Declarations
import Egress.Proofs.Survey

/-!
# Where two rooms are joined

Of the exits from one room to another a survey keeps the first: the boundary that both share, and
only without one the portal declared first.  Because portals are recorded in pairs, and a shared
boundary is the same from both sides, the exit that is kept on the way back has the same crossing.
Exits to the outside are all kept, in their order.
-/

namespace Egress.Building

variable {α σ : Type} {building : Building α σ} {position : Nat} {room : Room σ}

/-! ## Positions of rooms -/

namespace Consistent

/-- A room is determined by its id. -/
theorem room_unique (consistent : building.Consistent) {first second : Room σ}
    (isFirst : first ∈ building.rooms) (isSecond : second ∈ building.rooms)
    (same : first.id = second.id) : first = second :=
  List.inj_on_of_nodup_map consistent.distinct isFirst isSecond same

theorem position_unique (consistent : building.Consistent) {other : Nat} {otherRoom : Room σ}
    (found : building.rooms[position]? = some room)
    (also : building.rooms[other]? = some otherRoom) (same : room.id = otherRoom.id) :
    position = other := by
  have inside : position < building.ids.length := by
    rw [ids, List.length_map]
    exact (List.getElem?_eq_some_iff.mp found).1
  refine (List.getElem?_inj inside consistent.distinct).mp ?_
  rw [ids, List.getElem?_map, List.getElem?_map, found, also, Option.map_some, Option.map_some,
    same]

theorem indexOf?_of_getElem? (consistent : building.Consistent)
    (found : building.rooms[position]? = some room) :
    building.indexOf? room.id = some position := by
  rcases List.getElem?_eq_some_iff.mp found with ⟨inside, isRoom⟩
  refine List.findIdx?_eq_some_iff_getElem.mpr ⟨inside, ?_, ?_⟩
  · rw [isRoom, beq_self_eq_true]
  · intro earlier less same
    have found' := List.getElem?_eq_getElem (Nat.lt_trans less inside)
    exact absurd (consistent.position_unique found' found (beq_iff_eq.mp same)) (Nat.ne_of_lt less)

/-- A search for the room with an id finds it exactly if it passes the other test. -/
theorem find?_of_mem (consistent : building.Consistent) (member : room ∈ building.rooms)
    (test : Room σ → Bool) :
    (building.rooms.find? fun other => test other && other.id == room.id) =
      if test room then some room else none := by
  cases found : building.rooms.find? fun other => test other && other.id == room.id with
  | none =>
    have failed := List.find?_eq_none.mp found room member
    rw [beq_self_eq_true, Bool.and_true] at failed
    rw [if_neg failed]
  | some other =>
    have passed := List.find?_some found
    simp only [Bool.and_eq_true, beq_iff_eq] at passed
    have same := consistent.room_unique (List.mem_of_find?_eq_some found) member passed.2
    rw [← same, if_pos passed.1]

theorem room?_of_mem (consistent : building.Consistent) (member : room ∈ building.rooms) :
    building.room? room.id = some room := by
  have found := consistent.find?_of_mem member fun _ => true
  simp only [Bool.true_and, if_true] at found
  exact found

end Consistent

/-! ## Exits before and after their rooms are looked up -/

variable [Scalar α] [Outline σ α]

/-- The exits to rooms that a room touches. -/
def contacts (building : Building α σ) (room : Room σ) : List (Exit α) :=
  (building.rooms.filter fun other =>
    other.id != room.id && other.floor == room.floor && touches room.shape other.shape).map
      fun other => ⟨some other.id, Outline.contactCentre room.shape other.shape⟩

omit [Scalar α] [Outline σ α] in
/-- The exits through the portals of a room. -/
def portalsFrom (building : Building α σ) (id : String) : List (Exit α) :=
  (building.portals.filter fun portal => portal.source == id).map fun portal =>
    ⟨some portal.target, portal.point⟩

omit [Scalar α] [Outline σ α] in
/-- The exits through the doors of a room. -/
def doorsFrom (building : Building α σ) (id : String) : List (Exit α) :=
  (building.doors.filter fun door => door.room == id).map fun door => ⟨none, door.point⟩

theorem Consistent.exits_eq (consistent : building.Consistent) (member : room ∈ building.rooms) :
    building.exits room.id =
      .ok (building.contacts room ++ building.portalsFrom room.id ++
        building.doorsFrom room.id) := by
  have chosen : ∀ {β : Type} (entries : List β) (test : β → Bool) (exit : β → Exit α),
      (entries.filterMap fun entry => if test entry then some (exit entry) else none) =
        (entries.filter test).map exit := by
    intro β entries test exit
    rw [← List.filterMap_eq_map, List.filterMap_filter]
    rfl
  simp only [exits, Building.room, consistent.room?_of_mem member, chosen]
  rfl

/-- The crossing between two rooms: on the boundary that they share, or else at the first portal
from one to the other. -/
def crossing? (building : Building α σ) (first second : Room σ) : Option (Point α) :=
  if second.id != first.id && second.floor == first.floor && touches first.shape second.shape then
    some (Outline.contactCentre first.shape second.shape)
  else
    (building.portals.find? fun portal =>
      portal.source == first.id && portal.target == second.id).map Portal.point

theorem Consistent.find?_contacts (consistent : building.Consistent) {first second : Room σ}
    (isSecond : second ∈ building.rooms) :
    ((building.contacts first).find? fun exit => exit.target == some second.id) =
      if second.id != first.id && second.floor == first.floor &&
          touches first.shape second.shape then
        some ⟨some second.id, Outline.contactCentre first.shape second.shape⟩
      else none := by
  have search := consistent.find?_of_mem isSecond fun other =>
    other.id != first.id && other.floor == first.floor && touches first.shape other.shape
  unfold contacts
  rw [List.find?_map, List.find?_filter]
  simp only [Bool.decide_and, Bool.decide_eq_true]
  simp only [Function.comp_def, Option.some_beq_some]
  rw [search]
  split
  · rfl
  · rfl

omit [Scalar α] [Outline σ α] in
theorem find?_portalsFrom (building : Building α σ) (first second : String) :
    ((building.portalsFrom first).find? fun exit => exit.target == some second) =
      (building.portals.find? fun portal =>
        portal.source == first && portal.target == second).map fun portal =>
          ⟨some second, portal.point⟩ := by
  unfold portalsFrom
  rw [List.find?_map, List.find?_filter]
  simp only [Bool.decide_and, Bool.decide_eq_true]
  refine Option.map_congr fun portal found => ?_
  have ends := List.find?_some found
  rw [Bool.and_eq_true, beq_iff_eq] at ends
  have arrives : some portal.target = some second := eq_of_beq ends.2
  rw [arrives]

omit [Scalar α] [Outline σ α] in
theorem find?_doorsFrom (building : Building α σ) (first second : String) :
    ((building.doorsFrom first).find? fun exit => exit.target == some second) = none := by
  refine List.find?_eq_none.mpr fun exit member => ?_
  rcases List.mem_map.mp member with ⟨door, -, rfl⟩
  exact Bool.false_ne_true

/-- The first exit from one room to another is at the crossing between them. -/
theorem Consistent.find?_exits (consistent : building.Consistent) {first second : Room σ}
    (isSecond : second ∈ building.rooms) :
    ((building.contacts first ++ building.portalsFrom first.id ++
      building.doorsFrom first.id).find? fun exit => exit.target == some second.id) =
      (building.crossing? first second).map fun point => ⟨some second.id, point⟩ := by
  rw [List.find?_append, List.find?_append, consistent.find?_contacts isSecond,
    find?_portalsFrom, find?_doorsFrom, Option.or_none, crossing?]
  split
  · rfl
  · rw [Option.none_or, Option.map_map]
    rfl

omit [Scalar α] [Outline σ α] in
/-- In a list of portals next to their mirror images, the first portal from one room to another and
the first one back are at the same point. -/
theorem find?_mirrored (declared : List (Portal α)) (first second : String) :
    ((declared.flatMap fun portal => [portal, portal.mirror]).find? fun portal =>
      portal.source == first && portal.target == second).map Portal.point =
    ((declared.flatMap fun portal => [portal, portal.mirror]).find? fun portal =>
      portal.source == second && portal.target == first).map Portal.point := by
  induction declared with
  | nil => rfl
  | cons portal others hypothesis =>
    simp only [List.flatMap_cons, List.cons_append, List.nil_append, List.find?_cons,
      Portal.mirror]
    -- Both searches stop at the first pair that joins the two rooms, whichever of it they find.
    rw [Bool.and_comm (portal.target == first), Bool.and_comm (portal.target == second)]
    cases portal.source == first && portal.target == second with
    | true => cases portal.source == second && portal.target == first <;> rfl
    | false =>
      cases portal.source == second && portal.target == first with
      | true => rfl
      | false => exact hypothesis

/-- Two rooms have the same crossing both ways. -/
theorem Consistent.crossing?_comm [LawfulOutline σ] (consistent : building.Consistent)
    (first second : Room σ) :
    building.crossing? first second = building.crossing? second first := by
  have touching : touches first.shape second.shape = touches second.shape first.shape := by
    simp only [touches, LawfulOutline.contactLength_comm first.shape second.shape]
  rcases consistent.mirrored with ⟨declared, pairs⟩
  unfold crossing?
  rw [pairs, find?_mirrored declared first.id second.id, touching,
    LawfulOutline.contactCentre_comm first.shape second.shape, bne_comm, BEq.comm]

/-- Two rooms have a crossing if they touch on one floor or a portal joins them. -/
theorem exists_crossing?_iff {first second : Room σ} :
    (∃ point, building.crossing? first second = some point) ↔
      (second.id ≠ first.id ∧ second.floor = first.floor ∧
        touches first.shape second.shape = true) ∨
      (first.id, second.id) ∈ building.portals.map fun portal =>
        (portal.source, portal.target) := by
  unfold crossing?
  split
  · rename_i touching
    simp only [Bool.and_eq_true, bne_iff_ne, beq_iff_eq, and_assoc] at touching
    exact ⟨fun _ => Or.inl touching, fun _ => ⟨_, rfl⟩⟩
  · rename_i apart
    simp only [Bool.and_eq_true, bne_iff_ne, beq_iff_eq, and_assoc] at apart
    rw [or_iff_right apart, ← Option.isSome_iff_exists, Option.isSome_map, List.find?_isSome]
    simp only [Bool.and_eq_true, beq_iff_eq, List.mem_map, Prod.mk.injEq]

/-- Whether an exit leads to the room at a position. -/
def leadsTo (position : Nat) (exit : Option (Nat × Point α) × Point α) : Bool :=
  exit.1.map Prod.fst == some position

omit [Scalar α] in
/-- The first exit to a room is still the first one once rooms are looked up. -/
theorem Consistent.find?_knownExits (consistent : building.Consistent)
    (found : building.rooms[position]? = some room) (near : Room σ) (exits : List (Exit α)) :
    (building.knownExits near exits).find? (leadsTo position) =
      (exits.find? fun exit => exit.target == some room.id).map fun exit =>
        (some (position, Outline.centre room.shape), exit.point) := by
  have isIndex := consistent.indexOf?_of_getElem? found
  have isRoom := consistent.room?_of_mem (List.mem_of_getElem? found)
  unfold knownExits behind
  induction exits with
  | nil => rfl
  | cons exit others hypothesis =>
    cases isTarget : exit.target with
    | none => simpa [isTarget, leadsTo, Except.toOption] using hypothesis
    | some id =>
      by_cases same : id = room.id
      · simp [isTarget, same, isIndex, isRoom, leadsTo, Except.toOption]
      · cases indexed : building.indexOf? id with
        | none => simpa [isTarget, same, indexed, Except.toOption] using hypothesis
        | some other =>
          cases named : building.room? id with
          | none => simpa [isTarget, same, indexed, named, Except.toOption] using hypothesis
          | some otherRoom =>
            have apart : other ≠ position := by
              rintro rfl
              rcases List.findIdx?_eq_some_iff_getElem.mp indexed with ⟨inside, isId, -⟩
              rw [(List.getElem?_eq_some_iff.mp found).2, beq_iff_eq] at isId
              exact same isId.symm
            simpa [isTarget, same, indexed, named, leadsTo, apart, Except.toOption] using hypothesis

omit [Scalar α] in
/-- Exits to the outside stay as they are when rooms are looked up. -/
theorem filter_knownExits (building : Building α σ) (near : Room σ) (exits : List (Exit α)) :
    ((building.knownExits near exits).filter fun exit => exit.1.isNone) =
      (exits.filter fun exit => exit.target.isNone).map fun exit => (none, exit.point) := by
  unfold knownExits behind
  induction exits with
  | nil => rfl
  | cons exit others hypothesis =>
    cases isTarget : exit.target with
    | none => simpa [isTarget, Except.toOption] using hypothesis
    | some id =>
      rw [List.filter_cons_of_neg (by simp [isTarget]), ← hypothesis, List.filterMap_cons]
      simp only [isTarget]
      split
      · rfl
      · rename_i kept looked
        split at looked
        · cases looked
          rfl
        · cases looked

omit [Scalar α] in
/-- Behind an exit to a declared room is that room. -/
theorem isOk_behind {near : Room σ} {exit : Exit α}
    (declared : ∀ id, exit.target = some id → id ∈ building.ids) :
    (building.behind near exit).isOk = true := by
  unfold behind
  cases isTarget : exit.target with
  | none => rfl
  | some id =>
    rcases mem_ids_iff.mp (declared id isTarget) with ⟨target, isRoom⟩
    have indexed : (building.indexOf? id).isSome = true := by
      rw [indexOf?, List.findIdx?_isSome, List.any_eq_true]
      have named := List.find?_some (p := fun room : Room σ => room.id == id) isRoom
      exact ⟨target, List.mem_of_find?_eq_some isRoom, named⟩
    rcases Option.isSome_iff_exists.mp indexed with ⟨index, isIndex⟩
    simp only [isIndex, isRoom]
    rfl

/-- Every exit of a room of a declared building leads to the outside or to a declared room. -/
theorem Consistent.declared_of_exit (consistent : building.Consistent) (near : Room σ) {id : String}
    {exit : Exit α} (member : exit ∈ building.contacts near ++ building.portalsFrom near.id ++
      building.doorsFrom near.id) (isTarget : exit.target = some id) : id ∈ building.ids := by
  rcases List.mem_append.mp member with inside | outside
  · rcases List.mem_append.mp inside with contact | through
    · rcases List.mem_map.mp contact with ⟨other, isOther, rfl⟩
      cases isTarget
      exact List.mem_map_of_mem (List.mem_filter.mp isOther).1
    · rcases List.mem_map.mp through with ⟨portal, isPortal, rfl⟩
      cases isTarget
      exact (consistent.portal_declared portal (List.mem_filter.mp isPortal).1).2
  · rcases List.mem_map.mp outside with ⟨door, -, rfl⟩
    cases isTarget

/-! ## Exits that are kept -/

omit [Scalar α] [Outline σ α] in
/-- Of the exits to a room that was not seen, the first is kept. -/
theorem mem_firstOfEach_iff {seen : List Nat} {exits : List (Option (Nat × Point α) × Point α)}
    {found : Nat × Point α} {point : Point α} :
    (some found, point) ∈ firstOfEach seen exits ↔
      found.1 ∉ seen ∧ exits.find? (leadsTo found.1) = some (some found, point) := by
  induction exits generalizing seen with
  | nil => simp [firstOfEach]
  | cons exit others hypothesis =>
    rcases exit with ⟨_ | ⟨index, centre⟩, crossing⟩
    · rw [firstOfEach, List.find?_cons_of_neg (by simp [leadsTo])]
      simpa using hypothesis
    · rw [firstOfEach]
      -- An exit to the same room settles the matter; one to another room only joins those seen.
      by_cases same : index = found.1
      · rw [List.find?_cons_of_pos (by simp [leadsTo, same])]
        by_cases old : index ∈ seen
        · rw [if_pos (List.contains_iff_mem.mpr old), hypothesis]
          simp [← same, old]
        · rw [if_neg (mt List.contains_iff_mem.mp old), List.mem_cons, hypothesis]
          simp [← same, old, eq_comm]
      · rw [List.find?_cons_of_neg (by simp [leadsTo, same])]
        by_cases old : index ∈ seen
        · rw [if_pos (List.contains_iff_mem.mpr old), hypothesis]
        · rw [if_neg (mt List.contains_iff_mem.mp old), List.mem_cons, hypothesis]
          have different : (some found, point) ≠ (some (index, centre), crossing) := by
            intro equal
            cases equal
            exact same rfl
          simp [different, Ne.symm same]

omit [Scalar α] [Outline σ α] in
/-- All exits to the outside are kept. -/
theorem filter_firstOfEach (seen : List Nat)
    (exits : List (Option (Nat × Point α) × Point α)) :
    ((firstOfEach seen exits).filter fun exit => exit.1.isNone) =
      exits.filter fun exit => exit.1.isNone := by
  induction exits generalizing seen with
  | nil => rfl
  | cons exit others hypothesis =>
    rcases exit with ⟨_ | ⟨index, centre⟩, crossing⟩
    · simp [firstOfEach, hypothesis]
    · rw [firstOfEach]
      split
      · simp [hypothesis]
      · simp [hypothesis]

/-- The exits of a room that a survey keeps. -/
def keptExits (building : Building α σ) (room : Room σ) :
    List (Option (Nat × Point α) × Point α) :=
  firstOfEach [] (building.knownExits room (building.contacts room ++
    building.portalsFrom room.id ++ building.doorsFrom room.id))

/-- The exit to another room that is kept is the crossing between them. -/
theorem Consistent.mem_keptExits_iff (consistent : building.Consistent) {first second : Room σ}
    (isSecond : building.rooms[position]? = some second) {centre point : Point α} :
    (some (position, centre), point) ∈ building.keptExits first ↔
      centre = Outline.centre second.shape ∧ building.crossing? first second = some point := by
  rw [keptExits, mem_firstOfEach_iff, consistent.find?_knownExits isSecond,
    consistent.find?_exits (List.mem_of_getElem? isSecond)]
  simp only [List.not_mem_nil, not_false_eq_true, true_and, Option.map_map,
    Option.map_eq_some_iff, Function.comp_apply, Prod.mk.injEq, Option.some.injEq, true_and]
  constructor
  · rintro ⟨crossing, isCrossing, same, rfl⟩
    exact ⟨same.symm, isCrossing⟩
  · rintro ⟨rfl, isCrossing⟩
    exact ⟨point, isCrossing, rfl, rfl⟩

/-- Every exit into the building that is kept leads to one of its rooms. -/
theorem Consistent.exists_room_of_kept (consistent : building.Consistent)
    {centre point : Point α} (kept : (some (position, centre), point) ∈ building.keptExits room) :
    ∃ target, building.rooms[position]? = some target ∧ centre = Outline.centre target.shape ∧
      building.crossing? room target = some point := by
  have known := ((firstOfEach_spec [] _).1 _ kept).1
  have inside : position < building.rooms.length := lt_of_mem_knownExits known rfl
  have found := List.getElem?_eq_getElem inside
  exact ⟨_, found, (consistent.mem_keptExits_iff found).mp kept⟩

/-- The exits to the outside that are kept are the doors. -/
theorem filter_keptExits (building : Building α σ) (room : Room σ) :
    ((building.keptExits room).filter fun exit => exit.1.isNone) =
      ((building.doors.filter fun door => door.room == room.id).map Door.point).map
        fun point => (none, point) := by
  have contacts : ((building.contacts room).filter fun exit => exit.target.isNone) = [] := by
    refine List.filter_eq_nil_iff.mpr fun exit member => ?_
    rcases List.mem_map.mp member with ⟨other, -, rfl⟩
    exact Bool.false_ne_true
  have portals : ((building.portalsFrom room.id).filter fun exit => exit.target.isNone) = [] := by
    refine List.filter_eq_nil_iff.mpr fun exit member => ?_
    rcases List.mem_map.mp member with ⟨portal, -, rfl⟩
    exact Bool.false_ne_true
  have doors : ((building.doorsFrom room.id).filter fun exit => exit.target.isNone) =
      building.doorsFrom room.id := by
    refine List.filter_eq_self.mpr fun exit member => ?_
    rcases List.mem_map.mp member with ⟨door, -, rfl⟩
    rfl
  rw [keptExits, filter_firstOfEach, filter_knownExits, List.filter_append, List.filter_append,
    contacts, portals, doors, List.nil_append, List.nil_append, doorsFrom, List.map_map,
    List.map_map]
  rfl

end Egress.Building
