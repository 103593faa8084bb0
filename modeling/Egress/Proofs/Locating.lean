import Mathlib.Data.List.Sort
import Egress.Proofs.Snapshot

/-!
# The first room that covers a point

Points are located in an index of the rooms that is kept between questions.  The index is asked for
the positions of the outlines that cover a point and may give them in any order; the least one on
the right floor is taken.  Because declaring a room drops the index and no other call needs to, this
is the room that a plain scan of the rooms finds first: in the order in which they were declared,
whatever was declared, refused or asked before.

Shared boundaries and stacked floors are where several positions are found at once, and where the
order decides.
-/

namespace Egress

namespace Building

/-- Going through the positions of wanted entries to the first that is chosen finds the first entry
that is both. -/
theorem findSome?_wanted {β : Type} (wanted chosen : β → Bool) (entries : List β) :
    ((List.range entries.length).filter fun position => entries[position]?.any wanted).findSome?
      (fun position => entries[position]?.filter chosen) =
        entries.find? fun entry => wanted entry && chosen entry := by
  induction entries with
  | nil => rfl
  | cons entry rest hypothesis =>
    rw [List.length_cons, List.range_succ_eq_map, List.filter_cons, List.filter_map]
    -- The positions behind the first one are those of the rest, moved by one.
    have later : ((List.range rest.length).filter
        ((fun position => (entry :: rest)[position]?.any wanted) ∘ Nat.succ)).findSome?
          ((fun position => (entry :: rest)[position]?.filter chosen) ∘ Nat.succ) =
        rest.find? fun entry => wanted entry && chosen entry := hypothesis
    rw [List.getElem?_cons_zero, Option.any_some, List.find?_cons]
    cases isWanted : wanted entry with
    | false =>
      rw [if_neg Bool.false_ne_true, List.findSome?_map, Bool.false_and, later]
    | true =>
      rw [if_pos rfl, List.findSome?_cons, List.getElem?_cons_zero, Option.filter_some,
        Bool.true_and, List.findSome?_map, later]
      cases chosen entry <;> rfl

variable {α σ : Type} [Scalar α] [Outline σ α]

/-- A room covers a point and lies on the given floor, if there is one. -/
def Covers (point : Point α) (floor : Option Int) (room : Room σ) : Prop :=
  Outline.covers room.shape point = true ∧ ∀ level, floor = some level → room.floor = level

/-- A room is the first of some rooms to cover a point. -/
def IsFirst (point : Point α) (floor : Option Int) (rooms : List (Room σ)) (room : Room σ) : Prop :=
  Covers point floor room ∧ ∃ earlier later, rooms = earlier ++ room :: later ∧
    ∀ other ∈ earlier, ¬ Covers point floor other

/-- The positions in an index of the rooms that cover a point, on any floor. -/
def positions (index : List (Box α × Room σ)) (point : Point α) : List Nat :=
  (List.range index.length).filter fun position =>
    index[position]?.any fun entry => Outline.covers entry.2.shape point

/-- The room at the least of some positions in an index, on the given floor or on any. -/
def least (index : List (Box α × Room σ)) (floor : Option Int) (hits : List Nat) :
    Option (Room σ) :=
  (hits.mergeSort.findSome? fun position => index[position]?.filter fun entry =>
    floor.all fun level => entry.2.floor == level).map Prod.snd

variable {building : Building α σ} {point : Point α} {floor : Option Int}

omit [Scalar α] in
/-- The order in which positions are given does not matter. -/
theorem least_of_perm {index : List (Box α × Room σ)} {hits : List Nat}
    (found : hits.Perm (positions index point)) :
    least index floor hits = (index.find? fun entry => Outline.covers entry.2.shape point &&
      floor.all fun level => entry.2.floor == level).map Prod.snd := by
  have inOrder : (positions index point).Pairwise fun first second => first ≤ second :=
    (List.pairwise_lt_range.imp fun less => less.le).filter _
  have sorted : hits.mergeSort = positions index point :=
    ((hits.mergeSort_perm _).trans found).eq_of_pairwise
      (fun _ _ _ _ below above => le_antisymm below above)
      (List.pairwise_mergeSort' (fun first second : Nat => first ≤ second) hits) inOrder
  rw [least, sorted, positions, findSome?_wanted]

omit [Scalar α] in
theorem covers_iff (room : Room σ) : (Outline.covers room.shape point &&
    floor.all fun level => room.floor == level) = true ↔ Covers point floor room := by
  rw [Bool.and_eq_true, Option.all_eq_true]
  simp only [beq_iff_eq]
  rfl

/-- A room is found exactly if it covers the point, where outlines lie in their boxes. -/
theorem found_iff
    (inBox : ∀ (shape : σ) (point : Point α), Outline.covers shape point = true →
      (Outline.box shape).contains point = true)
    (room : Room σ) : found point floor room = true ↔ Covers point floor room := by
  unfold found hit
  rw [Bool.and_assoc, Bool.and_eq_true, covers_iff]
  exact ⟨And.right, fun covers => ⟨inBox room.shape point covers.1, covers⟩⟩

/-- An answer for a point is what a scan of the rooms gives that were declared. -/
structure Locates (building : Building α σ) (calls : List (Call α)) (point : Point α)
    (floor : Option Int) (answer : Option (Room σ)) : Prop where
  /-- The rooms are those of the accepted calls, in order. -/
  declared : building.rooms =
    ((Building.empty : Building α σ).accepted calls).flatMap Call.rooms
  current : building.Current
  first_iff : ∀ room, answer = some room ↔ IsFirst point floor building.rooms room
  none_iff : answer = none ↔ ∀ room ∈ building.rooms, ¬ Covers point floor room
  /-- The positions of the outlines that cover the point may be given in any order. -/
  least_eq : ∀ hits, hits.Perm (positions building.currentIndex point) →
    least building.currentIndex floor hits = answer

/-- Whatever calls were made before, a point lies in the first room that covers it.  An outline is
taken to lie in the box by which it is indexed. -/
theorem locate_finds_first
    (inBox : ∀ (shape : σ) (point : Point α), Outline.covers shape point = true →
      (Outline.box shape).contains point = true)
    (calls : List (Call α)) (point : Point α) (floor : Option Int) :
    let building := (Building.empty : Building α σ).performAll calls
    building.Locates calls point floor (building.locate point floor).1 := by
  intro building
  have current : building.Current := Current.empty.performAll calls
  have answer : (building.locate point floor).1 = building.rooms.find? (found point floor) :=
    current.roomAt?_eq point floor
  refine ⟨performAll_rooms Building.empty calls, current, fun room => ?_, ?_, fun hits isHits => ?_⟩
  · rw [answer, List.find?_eq_some_iff_append, found_iff inBox]
    refine and_congr_right fun _ => exists_congr fun earlier => exists_congr fun later =>
      and_congr_right fun _ => forall₂_congr fun other _ => ?_
    rw [Bool.not_eq_true', ← Bool.not_eq_true, found_iff inBox]
  · rw [answer, List.find?_eq_none]
    exact forall₂_congr fun room _ => not_congr (found_iff inBox room)
  · rw [answer, least_of_perm isHits, current, boxed, List.find?_map, Option.map_map]
    refine (congrFun Option.map_id _).trans (congrArg (building.rooms.find? ·) ?_)
    funext room
    rw [Bool.eq_iff_iff, found_iff inBox]
    exact covers_iff room

/-- Two rooms next to each other and one above the first, declared with questions in between and
with a room that overlaps the second one and is refused. -/
def stackedCalls : List (Call Rat) := [
  .room "GROUND" [⟨0, 0⟩, ⟨2, 0⟩, ⟨2, 2⟩, ⟨0, 2⟩] "lobby" 0,
  .locate ⟨2, 1⟩ (some 1),
  .room "NEXT" [⟨2, 0⟩, ⟨4, 0⟩, ⟨4, 2⟩, ⟨2, 2⟩] "floor" 0,
  .locate ⟨2, 1⟩ none,
  .room "ABOVE" [⟨0, 0⟩, ⟨2, 0⟩, ⟨2, 2⟩, ⟨0, 2⟩] "floor" 1,
  .room "ACROSS" [⟨1, 0⟩, ⟨3, 0⟩, ⟨3, 2⟩, ⟨1, 2⟩] "floor" 0,
  .portal "GROUND" "ABOVE" none,
  .door "ATTIC" ⟨0, 1⟩]

/-- All three rooms cover a point of the shared boundary.  The first is found, or the one above if
its floor is given, also where the positions are given last first. -/
theorem locate_finds_first_in_stack :
    let building := (Building.empty : Building Rat (Box Rat)).performAll stackedCalls
    building.Locates stackedCalls ⟨2, 1⟩ none (building.locate ⟨2, 1⟩ none).1 ∧
    building.Locates stackedCalls ⟨2, 1⟩ (some 1) (building.locate ⟨2, 1⟩ (some 1)).1 ∧
    (building.locate ⟨2, 1⟩ none).1.map Room.id = some "GROUND" ∧
    (building.locate ⟨2, 1⟩ (some 1)).1.map Room.id = some "ABOVE" ∧
    least building.currentIndex (some 1) [2, 1, 0] = (building.locate ⟨2, 1⟩ (some 1)).1 := by
  intro building
  have inBox : ∀ (shape : Box Rat) (point : Point Rat), Outline.covers shape point = true →
      (Outline.box shape).contains point = true := LawfulOutline.contains_of_covers
  have above := locate_finds_first inBox stackedCalls ⟨2, 1⟩ (some 1)
  refine ⟨locate_finds_first inBox stackedCalls ⟨2, 1⟩ none, above, by decide +kernel,
    by decide +kernel, above.least_eq [2, 1, 0] (by decide +kernel)⟩

end Building

end Egress
