import Egress.Proofs.Exits
import Egress.Proofs.Rectangle

/-!
# The network of a declared building

The network of a building that was made by calls has a region for each room that was declared, in
that order, and its connections are grouped by the regions that they leave.  Two rooms that touch or
are joined by a portal are connected both ways, once in each direction, through the same crossing
and at the same cost; and every door is a connection that leads outside.

Connections are those exits that the survey keeps, room by room.  What holds of the exits between
two rooms therefore holds of the connections between their regions.
-/

namespace Egress

/-- The centre of the region behind a connection, if there is one. -/
def Network.centreBehind? {α : Type} (network : Network α) (connection : Connection α) :
    Option (Point α) :=
  connection.destination.bind fun target =>
    network.regions[target.toNat]?.map fun region => region.centre

namespace Building

variable {α σ : Type} [Scalar α] [Metric α] [Outline σ α]

/-- The network agrees with a building and with the calls that made it. -/
structure Surveyed (building : Building α σ) (settings : Settings α) (calls : List (Call α))
    (network : Network α) : Prop where
  /-- Regions stand in the order in which rooms were declared. -/
  declared : network.regions.map (fun region => region.id) = calls.flatMap Call.ids
  region_eq : ∀ position, network.regions[position]? =
    building.rooms[position]?.map fun room => Region.mk (place room) position
  /-- Regions and connections are numbered by position, and lead from regions to regions. -/
  formed : network.WellFormed
  grouped : network.connections.Pairwise fun earlier later => earlier.source ≤ later.source
  /-- No two live connections join the same ordered pair. -/
  simple : network.Simple
  /-- Regions are connected if their rooms touch on one floor or a portal was declared between
  them. -/
  joined_iff : ∀ {first second : Nat} {near far : Room σ},
    building.rooms[first]? = some near → building.rooms[second]? = some far →
    ((∃ connection ∈ network.connections,
        connection.source = first ∧ connection.destination = some ↑second) ↔
      (first ≠ second ∧ near.floor = far.floor ∧ touches near.shape far.shape = true) ∨
      (near.id, far.id) ∈ calls.flatMap Call.ends)
  /-- Every connection into the building has one back, at the same crossing and the same cost. -/
  returns : ∀ connection ∈ network.connections, ∀ target,
    connection.destination = some target → ∃ back ∈ network.connections,
      (back.source : Int) = target ∧ back.destination = some ↑connection.source ∧
      back.crossing = connection.crossing ∧ back.baseCost = connection.baseCost
  /-- The connections that lead outside are the doors of the room, in order. -/
  outside : ∀ {position : Nat} {room : Room σ}, building.rooms[position]? = some room →
    ((network.leaving position).filter Connection.isDead).map (fun door => door.crossing) =
      ((calls.flatMap Call.doors).filter fun door => door.room == room.id).map Door.point
  /-- Where the cost floor is a number, it bounds the length of the way from below. -/
  cost : ∀ {least : α}, (settings.value .costFloor).number = .ok least →
    ∀ connection ∈ network.connections, ∀ region,
      network.regions[connection.source]? = some region →
      connection.baseCost = some (Scalar.larger
        (wayLength region.centre (network.centreBehind? connection) connection.crossing) least)

/-! ## Passages through the exits that are kept -/

variable {building : Building α σ} {settings : Settings α} {least : α} {room : Room σ}
  {exit : Option (Nat × Point α) × Point α} {connections : List (Connection α)}
  {connection : Connection α} {position : Nat}

/-- The passage through an exit of a room, where the cost floor counts as a number in
comparisons. -/
def through (settings : Settings α) (least : α) (room : Room σ)
    (exit : Option (Nat × Point α) × Point α) : Passage α where
  destination := exit.1.map fun found => (found.1 : Int)
  baseCost :=
    let length := wayLength (Outline.centre room.shape) (exit.1.map Prod.snd) exit.2
    if length < least then (settings.value .costFloor).number.toOption else some length
  crossing := exit.2

/-- Where the cost floor is a number, no passage costs less. -/
theorem baseCost_through (floor : (settings.value .costFloor).number = .ok least) (room : Room σ)
    (exit : Option (Nat × Point α) × Point α) :
    (through settings least room exit).baseCost =
      some (Scalar.larger
        (wayLength (Outline.centre room.shape) (exit.1.map Prod.snd) exit.2) least) := by
  simp only [through, floor, Scalar.larger]
  split <;> rfl

theorem passage_eq_through (floor : (settings.value .costFloor).number? = some least)
    (room : Room σ) (exit : Option (Nat × Point α) × Point α) :
    passage settings room exit = .ok (through settings least room exit) := by
  simp only [passage, costFrom, floor]
  rfl

/-- All passages of a building with the numbers of the rooms that they leave. -/
def entries (building : Building α σ) (settings : Settings α) (least : α) :
    List (Int × Passage α) :=
  building.rooms.zipIdx.flatMap fun (room, index) =>
    (building.keptExits room).map fun exit => ((index : Int), through settings least room exit)

theorem mem_entries_iff {entry : Int × Passage α} :
    entry ∈ building.entries settings least ↔ ∃ (position : Nat) (room : Room σ),
      building.rooms[position]? = some room ∧ ∃ exit ∈ building.keptExits room,
        entry = ((position : Int), through settings least room exit) := by
  unfold entries
  constructor
  · intro member
    rcases List.mem_flatMap.mp member with ⟨⟨room, position⟩, numbered, inGroup⟩
    rcases List.mem_map.mp inGroup with ⟨exit, kept, same⟩
    exact ⟨position, room, List.mem_zipIdx_iff_getElem?.mp numbered, exit, kept, same.symm⟩
  · rintro ⟨position, room, found, exit, kept, rfl⟩
    have numbered : (room, position) ∈ building.rooms.zipIdx :=
      List.mem_zipIdx_iff_getElem?.mpr found
    exact List.mem_flatMap.mpr ⟨(room, position), numbered, List.mem_map_of_mem kept⟩

theorem Consistent.passages_eq (consistent : building.Consistent)
    (floor : (settings.value .costFloor).number? = some least) (member : room ∈ building.rooms) :
    building.passages settings room =
      .ok ((building.keptExits room).map (through settings least room)) := by
  unfold passages
  rw [consistent.exits_eq member]
  refine passagesThrough_eq_ok_iff.mpr ⟨fun exit isExit => ?_, ?_⟩
  · exact isOk_behind fun id isTarget => consistent.declared_of_exit room isExit isTarget
  · exact mapM_of_values fun exit _ => passage_eq_through floor room exit

/-- Of groups that are numbered on from a start, one has a number. -/
theorem filter_numbered {β γ : Type} {items : List β} {item : β} (group : β → List γ)
    (start : Nat) (found : items[position]? = some item) :
    (((items.zipIdx start).flatMap fun (item, index) =>
      (group item).map fun entry => ((index : Int), entry)).filter fun entry =>
        entry.1 == ((start + position : Nat) : Int)) =
      (group item).map fun entry => (((start + position : Nat) : Int), entry) := by
  induction items generalizing start position with
  | nil => cases found
  | cons first rest hypothesis =>
    rw [List.zipIdx_cons, List.flatMap_cons, List.filter_append]
    cases position with
    | zero =>
      cases found
      have others : ((rest.zipIdx (start + 1)).flatMap fun (item, index) =>
          (group item).map fun entry => ((index : Int), entry)).filter (fun entry =>
            entry.1 == ((start + 0 : Nat) : Int)) = [] := by
        refine List.filter_eq_nil_iff.mpr fun entry member => ?_
        rcases List.mem_flatMap.mp member with ⟨⟨other, index⟩, numbered, inGroup⟩
        rcases List.mem_map.mp inGroup with ⟨_, -, rfl⟩
        have beyond : start + 1 ≤ index := List.le_snd_of_mem_zipIdx numbered
        simp only [beq_iff_eq]
        omega
      rw [others, List.append_nil]
      refine List.filter_eq_self.mpr fun entry member => ?_
      rcases List.mem_map.mp member with ⟨_, -, rfl⟩
      simp
    | succ earlier =>
      have before : ((group first).map fun entry => ((start : Int), entry)).filter (fun entry =>
          entry.1 == ((start + (earlier + 1) : Nat) : Int)) = [] := by
        refine List.filter_eq_nil_iff.mpr fun entry member => ?_
        rcases List.mem_map.mp member with ⟨_, -, rfl⟩
        simp only [beq_iff_eq]
        omega
      have later : rest[earlier]? = some item := found
      have others := hypothesis (start + 1) later
      rw [Nat.add_right_comm, Nat.add_assoc] at others
      rw [before, List.nil_append, others]

omit [Scalar α] [Metric α] in
/-- Places are numbered by position. -/
theorem getElem?_number (places : List (Place α)) (position : Nat) :
    (Network.number places)[position]? =
      places[position]?.map fun place => Region.mk place position := by
  simp only [Network.number, List.getElem?_map, List.getElem?_zipIdx, Option.map_map, Nat.zero_add]
  rfl

omit [Scalar α] [Metric α] in
/-- Rooms become regions at their positions. -/
theorem getElem?_regions (building : Building α σ) (connections : List (Connection α))
    (position : Nat) :
    (Network.ofLists (Network.number (building.rooms.map place)) connections).regions[position]? =
      building.rooms[position]?.map fun room => Region.mk (place room) position := by
  simp only [Network.ofLists, getElem?_number, List.getElem?_map, Option.map_map]
  rfl

/-! ## Connections and the exits behind them -/

/-- The connections are the passages of the building, in order. -/
def Lists (building : Building α σ) (settings : Settings α) (least : α)
    (connections : List (Connection α)) : Prop :=
  connections.map (fun connection => ((connection.source : Int), connection.toPassage)) =
    building.entries settings least

/-- A building with rooms has a network, made of its rooms and passages. -/
theorem Consistent.exists_network (consistent : building.Consistent)
    (floor : (settings.value .costFloor).number? = some least) (inhabited : building.rooms ≠ []) :
    ∃ connections, building.network settings =
        .ok (Network.ofLists (Network.number (building.rooms.map place)) connections) ∧
      building.Lists settings least connections := by
  have visited : ∀ entry ∈ building.rooms.zipIdx,
      (do return (← building.passages settings entry.1).map fun passage =>
        ((entry.2 : Int), passage) : Except (Fault α) (List (Int × Passage α))) =
      .ok ((building.keptExits entry.1).map fun exit =>
        ((entry.2 : Int), through settings least entry.1 exit)) := by
    rintro ⟨room, index⟩ member
    have isRoom := List.mem_of_getElem? (List.mem_zipIdx_iff_getElem?.mp member)
    rw [consistent.passages_eq floor isRoom]
    exact congrArg Except.ok List.map_map
  have inside : ∀ entry ∈ building.entries settings least,
      0 ≤ entry.1 ∧ entry.1 < ((building.rooms.map (place (α := α))).length : Int) := by
    intro entry member
    rcases mem_entries_iff.mp member with ⟨position, room, found, exit, -, rfl⟩
    rw [List.length_map]
    exact ⟨Int.natCast_nonneg _,
      Int.ofNat_lt.mpr (List.getElem?_eq_some_iff.mp found).1⟩
  rcases Network.exists_numberPassages 0 inside with ⟨connections, numbered⟩
  refine ⟨connections, ?_, Network.numberPassages_entries numbered⟩
  have notEmpty : building.rooms.isEmpty = false := by
    rw [List.isEmpty_eq_false_iff]
    exact inhabited
  unfold Building.network
  rw [notEmpty, if_neg Bool.false_ne_true]
  refine bind_eq_ok.mpr ⟨_, mapM_of_values visited, ?_⟩
  rw [← List.flatMap_def]
  exact bind_eq_ok.mpr ⟨connections, numbered, rfl⟩

namespace Lists

/-- Every connection is a passage through an exit that is kept. -/
theorem exists_exit (listed : building.Lists settings least connections)
    (member : connection ∈ connections) :
    ∃ room, building.rooms[connection.source]? = some room ∧ ∃ exit ∈ building.keptExits room,
      connection.toPassage = through settings least room exit := by
  have isEntry : ((connection.source : Int), connection.toPassage) ∈
      building.entries settings least := listed ▸ List.mem_map_of_mem member
  rcases mem_entries_iff.mp isEntry with ⟨position, room, found, exit, kept, same⟩
  rcases Prod.mk.inj same with ⟨sameSource, isPassage⟩
  rw [Int.ofNat.inj sameSource]
  exact ⟨room, found, exit, kept, isPassage⟩

/-- Every exit that is kept is a connection. -/
theorem exists_connection (listed : building.Lists settings least connections)
    (found : building.rooms[position]? = some room) (kept : exit ∈ building.keptExits room) :
    ∃ connection ∈ connections, connection.source = position ∧
      connection.toPassage = through settings least room exit := by
  have isEntry : ((position : Int), through settings least room exit) ∈
      building.entries settings least :=
    mem_entries_iff.mpr ⟨position, room, found, exit, kept, rfl⟩
  rw [← listed] at isEntry
  rcases List.mem_map.mp isEntry with ⟨connection, member, same⟩
  rcases Prod.mk.inj same with ⟨sameSource, isPassage⟩
  exact ⟨connection, member, Int.ofNat.inj sameSource, isPassage⟩

/-- A connection into the building crosses between two rooms. -/
theorem exists_crossing (listed : building.Lists settings least connections)
    (consistent : building.Consistent) (member : connection ∈ connections) {target : Int}
    (isTarget : connection.destination = some target) :
    ∃ near far, ∃ index : Nat, building.rooms[connection.source]? = some near ∧
      building.rooms[index]? = some far ∧ target = index ∧
      building.crossing? near far = some connection.crossing ∧
      connection.toPassage = through settings least near
        (some (index, Outline.centre far.shape), connection.crossing) := by
  rcases listed.exists_exit member with ⟨near, isNear, ⟨beyond, point⟩, kept, isPassage⟩
  have isPoint : connection.crossing = point := congrArg Passage.crossing isPassage
  have destination : (through settings least near (beyond, point)).destination = some target :=
    isPassage ▸ isTarget
  rcases Option.map_eq_some_iff.mp destination with ⟨⟨index, centre⟩, isExit, same⟩
  cases isExit
  rcases consistent.exists_room_of_kept kept with ⟨far, isFar, isCentre, crossing⟩
  rw [isCentre, ← isPoint] at isPassage
  exact ⟨near, far, index, isNear, isFar, same.symm, isPoint ▸ crossing, isPassage⟩

/-- Where two rooms have a crossing, a connection leads across. -/
theorem exists_across (listed : building.Lists settings least connections)
    (consistent : building.Consistent) {first second : Nat} {near far : Room σ} {point : Point α}
    (isNear : building.rooms[first]? = some near) (isFar : building.rooms[second]? = some far)
    (crossing : building.crossing? near far = some point) :
    ∃ connection ∈ connections, connection.source = first ∧
      connection.toPassage =
        through settings least near (some (second, Outline.centre far.shape), point) :=
  listed.exists_connection isNear ((consistent.mem_keptExits_iff isFar).mpr ⟨rfl, crossing⟩)

/-- Two rooms are connected if there is a crossing between them. -/
theorem joined_iff (listed : building.Lists settings least connections)
    (consistent : building.Consistent) {first second : Nat} {near far : Room σ}
    (isNear : building.rooms[first]? = some near) (isFar : building.rooms[second]? = some far) :
    (∃ connection ∈ connections,
      connection.source = first ∧ connection.destination = some ↑second) ↔
      ∃ point, building.crossing? near far = some point := by
  constructor
  · rintro ⟨connection, member, isSource, isTarget⟩
    rcases listed.exists_crossing consistent member isTarget with
      ⟨room, other, index, found, also, same, crossing, -⟩
    rw [isSource, isNear] at found
    rw [← Int.ofNat.inj same, isFar] at also
    cases found
    cases also
    exact ⟨_, crossing⟩
  · rintro ⟨point, crossing⟩
    rcases listed.exists_across consistent isNear isFar crossing with
      ⟨connection, member, isSource, isPassage⟩
    exact ⟨connection, member, isSource, congrArg Passage.destination isPassage⟩

/-- Connections are grouped by source because rooms are surveyed in order. -/
theorem pairwise_source_le (listed : building.Lists settings least connections) :
    connections.Pairwise fun earlier later => earlier.source ≤ later.source := by
  have sorted : (building.entries settings least).Pairwise fun earlier later =>
      earlier.1 ≤ later.1 := by
    refine List.pairwise_flatMap.mpr ⟨?_, ?_⟩
    · rintro ⟨room, index⟩ -
      exact List.pairwise_map.mpr (List.pairwise_of_forall fun _ _ => le_refl _)
    · rw [List.pairwise_iff_getElem]
      intro first second firstInside secondInside less entry isEntry other isOther
      rw [List.getElem_zipIdx] at isEntry isOther
      rcases List.mem_map.mp isEntry with ⟨exit, -, rfl⟩
      rcases List.mem_map.mp isOther with ⟨otherExit, -, rfl⟩
      change ((0 + first : Nat) : Int) ≤ ((0 + second : Nat) : Int)
      omega
  rw [← listed, List.pairwise_map] at sorted
  exact sorted.imp fun {earlier later} less => Int.ofNat_le.mp less

/-- The connections that leave a room are the exits that are kept of it, in order. -/
theorem passages_of_leaving (listed : building.Lists settings least connections)
    (found : building.rooms[position]? = some room) :
    (connections.filter fun connection => connection.source == position).map
        (fun connection => connection.toPassage) =
      (building.keptExits room).map (through settings least room) := by
  have whole : building.rooms.zipIdx.flatMap (fun (room, index) =>
      ((building.keptExits room).map (through settings least room)).map
        fun passage => ((index : Int), passage)) = building.entries settings least := by
    simp only [List.map_map]
    rfl
  have leaving := filter_numbered (fun room => (building.keptExits room).map
    (through settings least room)) 0 found
  rw [whole, ← listed, Nat.zero_add, List.filter_map] at leaving
  have sources : ((fun entry : Int × Passage α => entry.1 == (position : Int)) ∘
      fun connection : Connection α => ((connection.source : Int), connection.toPassage)) =
      fun connection => connection.source == position := by
    funext connection
    exact Bool.eq_iff_iff.mpr (by simp)
  have passages := congrArg (List.map Prod.snd) leaving
  rw [sources, List.map_map, List.map_map] at passages
  exact passages.trans (List.map_id _)

/-- The connections that lead out of a room to the outside are its doors, in order. -/
theorem crossings_outside (listed : building.Lists settings least connections)
    (found : building.rooms[position]? = some room) :
    ((connections.filter fun connection => connection.source == position).filter
      Connection.isDead).map (fun connection => connection.crossing) =
      (building.doors.filter fun door => door.room == room.id).map Door.point := by
  have dead : (fun passage : Passage α => passage.destination.isNone) ∘
      through settings least room = fun exit => exit.1.isNone :=
    funext fun exit => Option.isNone_map
  calc ((connections.filter fun connection => connection.source == position).filter
        Connection.isDead).map (fun connection => connection.crossing)
      = (((connections.filter fun connection => connection.source == position).map
          fun connection => connection.toPassage).filter fun passage =>
            passage.destination.isNone).map (fun passage => passage.crossing) := by
        rw [List.filter_map, List.map_map]
        rfl
    _ = ((building.keptExits room).filter fun exit => exit.1.isNone).map Prod.snd := by
        rw [listed.passages_of_leaving found, List.filter_map, List.map_map, dead]
        rfl
    _ = (building.doors.filter fun door => door.room == room.id).map Door.point := by
        rw [filter_keptExits, List.map_map]
        exact List.map_id _

/-- The base cost of a connection is that of the way through it, where the cost floor is a
number. -/
theorem baseCost_eq (listed : building.Lists settings least connections)
    (consistent : building.Consistent)
    (floor : (settings.value .costFloor).number = .ok least) (member : connection ∈ connections)
    (found : building.rooms[connection.source]? = some room) :
    let network := Network.ofLists (Network.number (building.rooms.map place)) connections
    connection.baseCost = some (Scalar.larger (wayLength (Outline.centre room.shape)
      (network.centreBehind? connection) connection.crossing) least) := by
  intro network
  rcases listed.exists_exit member with ⟨near, isNear, ⟨beyond, point⟩, kept, isPassage⟩
  cases isNear.symm.trans found
  have behind : network.centreBehind? connection = beyond.map Prod.snd := by
    have destination : connection.destination = beyond.map fun found => (found.1 : Int) :=
      congrArg Passage.destination isPassage
    unfold Network.centreBehind?
    rw [destination]
    cases beyond with
    | none => rfl
    | some behind =>
      rcases consistent.exists_room_of_kept kept with ⟨far, isFar, isCentre, -⟩
      rw [Option.map_some, Option.bind_some, Int.toNat_natCast, getElem?_regions, isFar,
        Option.map_some, Option.map_some, Option.map_some, isCentre]
      rfl
  have isPoint : connection.crossing = point := congrArg Passage.crossing isPassage
  rw [behind, isPoint, congrArg Passage.baseCost isPassage]
  exact baseCost_through floor room (beyond, point)

end Lists

/-! ## Crossings from both sides -/

variable [LawfulMetric α] [Std.Commutative (α := α) (· + ·)]

omit [Outline σ α] in
/-- The way between two centres through a crossing is as long as the way back. -/
theorem wayLength_comm (first second crossing : Point α) :
    wayLength first (some second) crossing = wayLength second (some first) crossing := by
  have sums : ∀ outward onward : α, outward + onward = onward + outward := Std.Commutative.comm
  simp only [wayLength]
  rw [LawfulMetric.distance_comm crossing second, LawfulMetric.distance_comm first crossing, sums]

/-- A passage between two rooms has the same base cost as the one back through the same
crossing. -/
theorem baseCost_through_comm (first second : Room σ) (near far : Nat) (crossing : Point α) :
    (through settings least first (some (far, Outline.centre second.shape), crossing)).baseCost =
      (through settings least second
        (some (near, Outline.centre first.shape), crossing)).baseCost := by
  simp only [through, Option.map_some]
  rw [wayLength_comm]

/-- Every connection into the building has one back, at the same crossing and the same cost. -/
theorem Lists.exists_back [LawfulOutline σ] (listed : building.Lists settings least connections)
    (consistent : building.Consistent) (member : connection ∈ connections) {target : Int}
    (isTarget : connection.destination = some target) :
    ∃ back ∈ connections, (back.source : Int) = target ∧
      back.destination = some ↑connection.source ∧ back.crossing = connection.crossing ∧
      back.baseCost = connection.baseCost := by
  rcases listed.exists_crossing consistent member isTarget with
    ⟨near, far, index, isNear, isFar, rfl, crossing, isPassage⟩
  -- The way back need not be the same portal, but it is at the same point.
  have reverse : building.crossing? far near = some connection.crossing :=
    (consistent.crossing?_comm far near).trans crossing
  rcases listed.exists_across consistent isFar isNear reverse with
    ⟨back, isBack, isSource, isPassageBack⟩
  refine ⟨back, isBack, congrArg Int.ofNat isSource, congrArg Passage.destination isPassageBack,
    (congrArg Passage.crossing isPassageBack).trans rfl, ?_⟩
  rw [congrArg Passage.baseCost isPassage, congrArg Passage.baseCost isPassageBack]
  exact baseCost_through_comm far near connection.source index connection.crossing

/-- The network of a building that calls have made agrees with what they declared. -/
theorem network_of_calls [LawfulOutline σ] (calls : List (Call α))
    (floor : (settings.value .costFloor).number? = some least) :
    let building := (empty : Building α σ).performAll calls
    building.rooms ≠ [] → ∃ network, building.network settings = .ok network ∧
      building.Surveyed settings ((empty : Building α σ).accepted calls) network := by
  intro building inhabited
  have consistent : building.Consistent := Consistent.empty.performAll calls
  have ids : building.ids = ((empty : Building α σ).accepted calls).flatMap Call.ids :=
    performAll_ids empty calls
  have ends : building.portals.map (fun portal => (portal.source, portal.target)) =
      ((empty : Building α σ).accepted calls).flatMap Call.ends := performAll_ends empty calls
  have doors : building.doors = ((empty : Building α σ).accepted calls).flatMap Call.doors :=
    performAll_doors empty calls
  rcases consistent.exists_network floor inhabited with ⟨connections, surveyed, listed⟩
  refine ⟨_, surveyed, ?_⟩
  constructor
  case declared =>
    rw [← ids]
    refine List.ext_getElem? fun position => ?_
    rw [Building.ids, List.getElem?_map, List.getElem?_map, getElem?_regions, Option.map_map]
    rfl
  case region_eq => exact getElem?_regions building connections
  case formed => exact (network_spec surveyed).1
  case grouped => exact listed.pairwise_source_le
  case simple => exact (network_spec surveyed).2
  case joined_iff =>
    intro first second near far isNear isFar
    have apart : far.id ≠ near.id ↔ first ≠ second := by
      refine not_congr ⟨fun same => consistent.position_unique isNear isFar same.symm, ?_⟩
      rintro rfl
      rw [Option.some.inj (isNear.symm.trans isFar)]
    rw [← ends]
    refine ((listed.joined_iff consistent isNear isFar).trans exists_crossing?_iff).trans ?_
    rw [apart, eq_comm (a := far.floor)]
  case returns => exact fun connection member target => listed.exists_back consistent member
  case outside =>
    intro position room found
    rw [← doors]
    exact listed.crossings_outside found
  case cost =>
    intro lowest isLowest connection member region isRegion
    have same : least = lowest :=
      Option.some.inj (floor.symm.trans (Value.number?_of_number isLowest))
    subst same
    rw [getElem?_regions] at isRegion
    rcases Option.map_eq_some_iff.mp isRegion with ⟨room, found, rfl⟩
    exact listed.baseCost_eq consistent isLowest member found

/-- Calls that declare the row once more, with two portals from its last room; the second
declaration of the middle room is refused. -/
def rowCalls : List (Call Rat) := [
  .room "WEST" [⟨0, 0⟩, ⟨2, 0⟩, ⟨2, 2⟩, ⟨0, 2⟩] "lobby" 0,
  .door "WEST" ⟨0, 1⟩,
  .room "MIDDLE" [⟨2, 0⟩, ⟨4, 0⟩, ⟨4, 2⟩, ⟨2, 2⟩] "corridor" 0,
  .locate ⟨2, 1⟩ none,
  .room "MIDDLE" [⟨4, 0⟩, ⟨6, 0⟩, ⟨6, 2⟩, ⟨4, 2⟩] "entrance" 0,
  .room "EAST" [⟨4, 0⟩, ⟨6, 0⟩, ⟨6, 2⟩, ⟨4, 2⟩] "entrance" 0,
  .portal "EAST" "WEST" none,
  .portal "EAST" "EAST" (some ⟨5, 1⟩)]

theorem network_of_row_calls :
    let building := (empty : Building Rat (Box Rat)).performAll rowCalls
    ∃ network, building.network .defaults = .ok network ∧
      building.Surveyed .defaults ((empty : Building Rat (Box Rat)).accepted rowCalls) network :=
  network_of_calls rowCalls rfl (List.ne_nil_of_length_pos (by decide +kernel))

end Building

end Egress
