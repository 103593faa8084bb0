import Egress.Proofs.Walk
import Egress.Survey

/-!
# Surveys

A survey keeps the first exit to each room and numbers rooms by their position in the building.
The network it makes is therefore well formed, whatever was declared in the building, and has at
most one live connection for each ordered pair of regions.

A survey goes from exit to exit and stops at one that leads to a room the building does not have.
So the exits that it went through are those that lead somewhere, and of these the first to each room
are the passages.
-/

namespace Egress.Building

variable {α σ : Type}

/-- Keep the first exit to each room that is not among those seen, and every exit to the outside. -/
def firstOfEach (seen : List Nat) :
    List (Option (Nat × Point α) × Point α) → List (Option (Nat × Point α) × Point α)
  | [] => []
  | (none, point) :: rest => (none, point) :: firstOfEach seen rest
  | (some (index, centre), point) :: rest =>
    if seen.contains index then firstOfEach seen rest
    else (some (index, centre), point) :: firstOfEach (index :: seen) rest

/-- The exits that are kept lead to different rooms, and to none of those seen before. -/
theorem firstOfEach_spec (seen : List Nat) (exits : List (Option (Nat × Point α) × Point α)) :
    (∀ exit ∈ firstOfEach seen exits, exit ∈ exits ∧
      ∀ found, exit.1 = some found → found.1 ∉ seen) ∧
    (firstOfEach seen exits).Pairwise fun first second =>
      first.1.map Prod.fst = second.1.map Prod.fst → first.1.map Prod.fst = none := by
  induction exits generalizing seen with
  | nil => exact ⟨fun exit member => absurd member List.not_mem_nil, .nil⟩
  | cons exit others hypothesis =>
    rcases exit with ⟨_ | ⟨index, centre⟩, point⟩
    · rcases hypothesis seen with ⟨kept, apart⟩
      rw [firstOfEach]
      refine ⟨?_, List.pairwise_cons.mpr ⟨fun _ _ _ => rfl, apart⟩⟩
      intro exit member
      rcases List.mem_cons.mp member with rfl | later
      · refine ⟨List.mem_cons_self, ?_⟩
        intro found impossible
        cases impossible
      · exact ⟨List.mem_cons_of_mem _ (kept exit later).1, (kept exit later).2⟩
    · rw [firstOfEach]
      by_cases old : seen.contains index = true
      · rcases hypothesis seen with ⟨kept, apart⟩
        rw [if_pos old]
        refine ⟨?_, apart⟩
        intro exit member
        exact ⟨List.mem_cons_of_mem _ (kept exit member).1, (kept exit member).2⟩
      · rcases hypothesis (index :: seen) with ⟨kept, apart⟩
        rw [if_neg old]
        rw [List.contains_iff_mem] at old
        constructor
        · intro exit member
          rcases List.mem_cons.mp member with rfl | later
          · refine ⟨List.mem_cons_self, ?_⟩
            intro found same
            cases same
            exact old
          · refine ⟨List.mem_cons_of_mem _ (kept exit later).1, ?_⟩
            intro found same stale
            exact (kept exit later).2 found same (List.mem_cons_of_mem _ stale)
        · refine List.pairwise_cons.mpr ⟨?_, apart⟩
          intro exit later same
          rcases isFound : exit.1 with _ | found
          · rw [isFound] at same
            cases same
          · rw [isFound] at same
            cases same
            exact absurd List.mem_cons_self ((kept exit later).2 found isFound)

variable [Scalar α]

section Resolution

variable [Outline σ α] {building : Building α σ} {room : Room σ} {exits : List (Exit α)}

/-- The exits of a room that lead to the outside or to a room of the building, with what is behind
them. -/
def knownExits (building : Building α σ) (room : Room σ) (exits : List (Exit α)) :
    List (Option (Nat × Point α) × Point α) :=
  exits.filterMap fun exit =>
    (building.behind room exit).toOption.map fun beyond => (beyond, exit.point)

omit [Scalar α] [Outline σ α] in
theorem indexOf?_lt {id : String} {index : Nat} (found : building.indexOf? id = some index) :
    index < building.rooms.length := by
  rcases List.findIdx?_eq_some_iff_getElem.mp found with ⟨inside, -⟩
  exact inside

omit [Scalar α] in
/-- Exits that lead into the building lead to one of its rooms. -/
theorem lt_of_behind {exit : Exit α} {found : Nat × Point α}
    (leads : building.behind room exit = .ok (some found)) :
    found.1 < building.rooms.length := by
  unfold behind at leads
  split at leads
  · cases leads
  · split at leads
    · rename_i isIndex _
      cases leads
      exact indexOf?_lt isIndex
    · cases leads

omit [Scalar α] in
theorem lt_of_mem_knownExits {exit : Option (Nat × Point α) × Point α}
    (member : exit ∈ building.knownExits room exits) {found : Nat × Point α}
    (isFound : exit.1 = some found) : found.1 < building.rooms.length := by
  rcases List.mem_filterMap.mp member with ⟨declared, -, kept⟩
  rcases Option.map_eq_some_iff.mp kept with ⟨beyond, leads, rfl⟩
  subst isFound
  cases looked : building.behind room declared with
  | error fault =>
    rw [looked] at leads
    cases leads
  | ok behind =>
    rw [looked] at leads
    cases leads
    exact lt_of_behind looked

variable [Metric α] {settings : Settings α}

/-- A survey of some exits succeeds if each of them leads somewhere, and then it gives the passages
through those that are kept. -/
theorem passagesThrough_eq_ok_iff {seen : List Nat} {made : List (Passage α)} :
    building.passagesThrough settings room seen exits = .ok made ↔
      (∀ exit ∈ exits, (building.behind room exit).isOk = true) ∧
      (firstOfEach seen (building.knownExits room exits)).mapM (passage settings room) =
        .ok made := by
  induction exits generalizing seen made with
  | nil =>
    simp only [passagesThrough, knownExits, List.filterMap_nil, firstOfEach, List.mapM_nil]
    exact (and_iff_right fun exit member => absurd member List.not_mem_nil).symm
  | cons exit rest hypothesis =>
    rw [List.forall_mem_cons]
    cases leads : building.behind room exit with
    | error fault =>
      simp only [passagesThrough, leads]
      exact iff_of_false (fun impossible => by cases impossible)
        (fun both => Bool.false_ne_true both.1.1)
    | ok beyond =>
      have known : building.knownExits room (exit :: rest) =
          (beyond, exit.point) :: building.knownExits room rest := by
        simp only [knownExits, List.filterMap_cons, leads, Except.toOption, Option.map_some]
      have leadsOn : (Except.ok beyond : Except (Fault α) _).isOk = true := rfl
      rw [known, and_assoc, and_iff_right leadsOn]
      have first : ∀ {seen : List Nat}, (do
          let made ← passage settings room (beyond, exit.point)
          return made :: (← building.passagesThrough settings room seen rest)) = .ok made ↔
          (∀ exit ∈ rest, (building.behind room exit).isOk = true) ∧
          ((beyond, exit.point) :: firstOfEach seen (building.knownExits room rest)).mapM
            (passage settings room) = .ok made := by
        intro seen
        rw [List.mapM_cons]
        constructor
        · intro surveyed
          rcases bind_eq_ok.mp surveyed with ⟨passage, isPassage, onward⟩
          rcases bind_eq_ok.mp onward with ⟨others, isOthers, same⟩
          rcases hypothesis.mp isOthers with ⟨lead, traversed⟩
          exact ⟨lead, bind_eq_ok.mpr
            ⟨passage, isPassage, bind_eq_ok.mpr ⟨others, traversed, same⟩⟩⟩
        · rintro ⟨lead, traversed⟩
          rcases bind_eq_ok.mp traversed with ⟨passage, isPassage, onward⟩
          rcases bind_eq_ok.mp onward with ⟨others, isOthers, same⟩
          exact bind_eq_ok.mpr ⟨passage, isPassage, bind_eq_ok.mpr
            ⟨others, hypothesis.mpr ⟨lead, isOthers⟩, same⟩⟩
      cases beyond with
      | none =>
        have surveyed : building.passagesThrough settings room seen (exit :: rest) = (do
            let made ← passage settings room (none, exit.point)
            return made :: (← building.passagesThrough settings room seen rest)) := by
          rw [passagesThrough, leads]
          rfl
        rw [surveyed]
        exact first
      | some found =>
        have surveyed : building.passagesThrough settings room seen (exit :: rest) =
            if seen.contains found.1 then building.passagesThrough settings room seen rest
            else do
              let made ← passage settings room (some found, exit.point)
              return made ::
                (← building.passagesThrough settings room (found.1 :: seen) rest) := by
          rw [passagesThrough, leads]
          rfl
        rw [surveyed, firstOfEach]
        by_cases old : seen.contains found.1 = true
        · rw [if_pos old, if_pos old]
          exact hypothesis
        · rw [if_neg old, if_neg old]
          exact first

/-- A passage leads where its exit leads. -/
theorem destination_of_passage {exit : Option (Nat × Point α) × Point α} {made : Passage α}
    (succeeded : passage settings room exit = .ok made) :
    made.destination = (exit.1.map Prod.fst).map Int.ofNat := by
  rcases bind_eq_ok.mp succeeded with ⟨cost, -, same⟩
  cases same
  rw [Option.map_map]
  rfl

/-- The passages out of a room lead to different rooms of the building, or out of it. -/
theorem passages_spec {made : List (Passage α)}
    (succeeded : building.passages settings room = .ok made) :
    (∀ passage ∈ made, ∀ destination, passage.destination = some destination →
      0 ≤ destination ∧ destination < building.rooms.length) ∧
    made.Pairwise fun first second =>
      first.destination = second.destination → first.destination = none := by
  rcases bind_eq_ok.mp succeeded with ⟨exits, -, surveyed⟩
  have matched := mapM_eq_ok_iff.mp (passagesThrough_eq_ok_iff.mp surveyed).2
  rcases firstOfEach_spec [] (building.knownExits room exits) with ⟨kept, apart⟩
  constructor
  · intro passage member destination isDestination
    rcases exists_of_forall₂ matched passage member with ⟨exit, isExit, isPassage⟩
    rw [destination_of_passage isPassage, Option.map_map, Option.map_eq_some_iff] at isDestination
    rcases isDestination with ⟨found, isFound, rfl⟩
    have inside := lt_of_mem_knownExits (kept exit isExit).1 isFound
    exact ⟨Int.natCast_nonneg _, Int.ofNat_lt.mpr inside⟩
  · rw [List.pairwise_iff_getElem] at apart ⊢
    intro first second firstInside secondInside less same
    have length := matched.length_eq
    have isFirst := destination_of_passage (matched.get (length ▸ firstInside) firstInside)
    have isSecond := destination_of_passage (matched.get (length ▸ secondInside) secondInside)
    rw [List.get_eq_getElem, List.get_eq_getElem] at isFirst isSecond
    rw [isFirst, isSecond] at same
    have alike := Option.map_injective (fun _ _ => Int.ofNat.inj) same
    rw [isFirst, apart first second _ _ less alike]
    rfl

/-- The group at each position holds the passages out of the room at that position. -/
theorem groups_spec {groups : List (List (Int × Passage α))}
    (traversed : (building.rooms.zipIdx.mapM fun (room, index) => do
      return (← building.passages settings room).map fun passage => ((index : Int), passage)) =
        .ok groups) {index : Nat} (inside : index < groups.length) :
    ∃ room passages, building.passages settings room = .ok passages ∧
      groups[index] = passages.map fun passage => ((index : Int), passage) := by
  have matched := mapM_eq_ok_iff.mp traversed
  have visited := matched.get (matched.length_eq ▸ inside) inside
  simp only [List.get_eq_getElem, List.getElem_zipIdx, Nat.zero_add] at visited
  rcases bind_eq_ok.mp visited with ⟨passages, isPassages, same⟩
  exact ⟨_, passages, isPassages, (Except.ok.inj same).symm⟩

/-- Numbered passages are passages out of rooms. -/
theorem passage_of_mem_groups {groups : List (List (Int × Passage α))}
    (traversed : (building.rooms.zipIdx.mapM fun (room, index) => do
      return (← building.passages settings room).map fun passage => ((index : Int), passage)) =
        .ok groups) {entry : Int × Passage α} (member : entry ∈ groups.flatten) :
    ∃ room passages, building.passages settings room = .ok passages ∧ entry.2 ∈ passages := by
  rcases List.mem_flatten.mp member with ⟨group, isGroup, isEntry⟩
  rcases List.getElem_of_mem isGroup with ⟨index, inside, rfl⟩
  rcases groups_spec traversed inside with ⟨room, passages, isPassages, same⟩
  rw [same] at isEntry
  rcases List.mem_map.mp isEntry with ⟨passage, isPassage, rfl⟩
  exact ⟨room, passages, isPassages, isPassage⟩

/-- The network of a building is well formed and simple. -/
theorem network_spec {network : Network α} (surveyed : building.network settings = .ok network) :
    network.WellFormed ∧ network.Simple := by
  unfold Building.network at surveyed
  split at surveyed
  · cases surveyed
  · rcases bind_eq_ok.mp surveyed with ⟨groups, traversed, made⟩
    constructor
    · apply Network.wellFormed_of_ofPlaces made
      intro entry member destination isDestination
      rcases passage_of_mem_groups traversed member with ⟨room, passages, isPassages, isPassage⟩
      rw [List.length_map]
      exact (passages_spec isPassages).1 _ isPassage destination isDestination
    · refine Network.simple_of_ofPlaces made (List.pairwise_flatten.mpr ⟨?_, ?_⟩)
      · intro group isGroup
        rcases List.getElem_of_mem isGroup with ⟨index, inside, rfl⟩
        rcases groups_spec traversed inside with ⟨room, passages, isPassages, same⟩
        rw [same]
        refine List.pairwise_map.mpr ((passages_spec isPassages).2.imp ?_)
        intro passage other apart _ sameDestination
        exact apart sameDestination
      · rw [List.pairwise_iff_getElem]
        intro first second firstInside secondInside less entry isEntry other isOther sameSource
        rcases groups_spec traversed firstInside with ⟨-, passages, -, same⟩
        rcases groups_spec traversed secondInside with ⟨-, others, -, alike⟩
        rw [same] at isEntry
        rw [alike] at isOther
        rcases List.mem_map.mp isEntry with ⟨passage, -, rfl⟩
        rcases List.mem_map.mp isOther with ⟨otherPassage, -, rfl⟩
        exact absurd (Int.ofNat.inj sameSource) (Nat.ne_of_lt less)

/-- Where the cost floor is a number, every passage has a base cost. -/
theorem based_of_passages {least : α} (floor : (settings.value .costFloor).number = .ok least)
    {made : List (Passage α)} (succeeded : building.passages settings room = .ok made) :
    ∀ passage ∈ made, passage.baseCost.isSome = true := by
  rcases bind_eq_ok.mp succeeded with ⟨exits, -, surveyed⟩
  have matched := mapM_eq_ok_iff.mp (passagesThrough_eq_ok_iff.mp surveyed).2
  intro passage member
  rcases exists_of_forall₂ matched passage member with ⟨exit, -, made⟩
  rcases bind_eq_ok.mp made with ⟨cost, isCost, same⟩
  cases same
  simp only [costFrom, Value.number?_of_number floor, floor] at isCost
  cases isCost
  split <;> rfl

/-- The network of a building is priced as its settings say. -/
theorem network_priced {network : Network α} (surveyed : building.network settings = .ok network)
    {least low high : α} (floor : (settings.value .costFloor).number = .ok least)
    (lowest : (settings.value .weightFloor).number = .ok low)
    (highest : (settings.value .weightCeiling).number = .ok high) (positive : Scalar.zero < low)
    (ordered : low ≤ high) : network.Priced settings where
  formed := (network_spec surveyed).1
  based := by
    unfold Building.network at surveyed
    split at surveyed
    · cases surveyed
    · rcases bind_eq_ok.mp surveyed with ⟨groups, traversed, made⟩
      rcases bind_eq_ok.mp made with ⟨connections, numbered, same⟩
      cases same
      intro connection member
      rcases List.mem_iff_getElem?.mp member with ⟨place, found⟩
      have listed := (Network.numberPassages_lookup numbered found).2.2
      rcases passage_of_mem_groups traversed (List.mem_of_getElem? listed) with
        ⟨room, passages, isPassages, isPassage⟩
      exact based_of_passages floor isPassages _ isPassage
  bounds := ⟨low, high, lowest, highest, positive, ordered⟩

end Resolution

end Egress.Building
