import Mathlib.Data.List.Nodup
import Mathlib.Data.List.Perm.Subperm
import Egress.Network
import Egress.Proofs.Traversal

/-!
# Well-formed networks

The regions and connections of a network are numbered by position, connections leave regions of the
network and lead to regions of the network or out of it, and the table of arcs was made from the
connections.  Every reference to such a network that the planner makes itself is then answered.

A pair of regions may have several connections.  The table of arcs keeps the last of them; where
there is at most one live connection for each ordered pair, it keeps the connection itself.
-/

namespace Egress.Network

variable {α : Type} {network : Network α}

structure WellFormed (network : Network α) : Prop where
  region_index : ∀ {index : Nat} {region : Region α},
    network.regions[index]? = some region → region.index = index
  connection_index : ∀ {index : Nat} {connection : Connection α},
    network.connections[index]? = some connection → connection.index = index
  source_lt : ∀ connection ∈ network.connections, connection.source < network.size
  destination_lt : ∀ connection ∈ network.connections, ∀ destination,
    connection.destination = some destination → 0 ≤ destination ∧ destination < network.size
  arcs_eq : network.arcs = network.connections.foldl addArc ∅

/-- Regions and connections are numbered by position, wherever the connections lead. -/
structure Numbered (network : Network α) : Prop where
  region_index : ∀ {index : Nat} {region : Region α},
    network.regions[index]? = some region → region.index = index
  connection_index : ∀ {index : Nat} {connection : Connection α},
    network.connections[index]? = some connection → connection.index = index

theorem WellFormed.numbered (formed : network.WellFormed) : network.Numbered :=
  ⟨formed.region_index, formed.connection_index⟩

/-- There is at most one live connection for each ordered pair of regions. -/
def Simple (network : Network α) : Prop :=
  ∀ first ∈ network.connections, ∀ second ∈ network.connections,
    first.source = second.source → first.destination = second.destination →
    first.isDead = false → first = second

/-- Being the index of a region. -/
def Holds (network : Network α) (region : Int) : Prop := 0 ≤ region ∧ region < network.size

/-! ## References -/

theorem indexOf_of_lt {index : Nat} (inside : index < network.size) :
    network.indexOf index = .ok index := by
  unfold indexOf
  rw [if_pos ⟨by omega, by omega⟩]
  rfl

theorem indexOf_eq_ok_iff {reference : Int} {index : Nat} :
    network.indexOf reference = .ok index ↔ reference = index ∧ index < network.size := by
  unfold indexOf
  constructor
  · intro found
    split at found
    · cases found
      omega
    · cases found
  · rintro ⟨rfl, inside⟩
    exact indexOf_of_lt inside

theorem entryAt_of_lookup {β : Type} {entries : List β} {position : Nat} {entry : β}
    (found : entries[position]? = some entry) :
    (entryAt entries position : Except (Fault α) β) = .ok entry := by
  have notNegative : ¬ (position : Int) < 0 := by omega
  simp only [entryAt, if_neg notNegative, Int.toNat_natCast, found]

theorem entryAt_error {β : Type} {entries : List β} {position : Int} {fault : Fault α}
    (failed : entryAt entries position = .error fault) : fault = .outOfRange := by
  unfold entryAt at failed
  generalize (if position < 0 then position + entries.length else position) = offset at failed
  dsimp only at failed
  split at failed
  · cases failed
    rfl
  · split at failed
    · cases failed
    · cases failed
      rfl

theorem Numbered.region_of_lt (numbered : network.Numbered) {index : Nat}
    (inside : index < network.size) :
    ∃ region, network.regions[index]? = some region ∧ region.index = index ∧
      network.region index = .ok region ∧ network.regionAt index = .ok region := by
  have found := List.getElem?_eq_getElem inside
  refine ⟨_, found, numbered.region_index found, ?_, entryAt_of_lookup found⟩
  simp only [region, found]

theorem Numbered.lookup_of_mem (numbered : network.Numbered) {connection : Connection α}
    (member : connection ∈ network.connections) :
    network.connections[connection.index]? = some connection := by
  rcases List.mem_iff_getElem?.mp member with ⟨index, found⟩
  rw [numbered.connection_index found]
  exact found

theorem Numbered.index_lt_of_mem (numbered : network.Numbered) {connection : Connection α}
    (member : connection ∈ network.connections) :
    connection.index < network.connections.length :=
  (List.getElem?_eq_some_iff.mp (numbered.lookup_of_mem member)).1

theorem Numbered.region_lt_of_mem (numbered : network.Numbered) {region : Region α}
    (member : region ∈ network.regions) : region.index < network.size := by
  rcases List.mem_iff_getElem?.mp member with ⟨index, found⟩
  rw [numbered.region_index found]
  exact (List.getElem?_eq_some_iff.mp found).1

theorem WellFormed.region_of_lt (formed : network.WellFormed) {index : Nat}
    (inside : index < network.size) :
    ∃ region, network.regions[index]? = some region ∧ region.index = index ∧
      network.region index = .ok region ∧ network.regionAt index = .ok region :=
  formed.numbered.region_of_lt inside

theorem WellFormed.lookup_of_mem (formed : network.WellFormed) {connection : Connection α}
    (member : connection ∈ network.connections) :
    network.connections[connection.index]? = some connection :=
  formed.numbered.lookup_of_mem member

theorem WellFormed.index_lt_of_mem (formed : network.WellFormed) {connection : Connection α}
    (member : connection ∈ network.connections) :
    connection.index < network.connections.length :=
  formed.numbered.index_lt_of_mem member

theorem WellFormed.region_lt_of_mem (formed : network.WellFormed) {region : Region α}
    (member : region ∈ network.regions) : region.index < network.size :=
  formed.numbered.region_lt_of_mem member

/-- A region is determined by its index. -/
theorem WellFormed.region_unique (formed : network.WellFormed) {first second : Region α}
    (isFirst : first ∈ network.regions) (isSecond : second ∈ network.regions)
    (same : first.index = second.index) : first = second := by
  rcases List.mem_iff_getElem?.mp isFirst with ⟨place, atPlace⟩
  rcases List.mem_iff_getElem?.mp isSecond with ⟨other, atOther⟩
  have level : place = other := by
    rw [← formed.region_index atPlace, same, formed.region_index atOther]
  subst level
  exact Option.some.inj (atPlace.symm.trans atOther)

theorem mem_leaving {index : Nat} {connection : Connection α} :
    connection ∈ network.leaving index ↔
      connection ∈ network.connections ∧ connection.source = index := by
  simp only [leaving, List.mem_filter, beq_iff_eq]

theorem WellFormed.indices_eq_range (formed : network.WellFormed) :
    network.connections.map Connection.index = List.range network.connections.length := by
  apply List.ext_getElem?
  intro place
  rw [List.getElem?_map]
  cases found : network.connections[place]? with
  | none =>
    have beyond : (List.range network.connections.length).length ≤ place := by
      rw [List.length_range]
      exact List.getElem?_eq_none_iff.mp found
    exact (List.getElem?_eq_none_iff.mpr beyond).symm
  | some connection =>
    have inside := (List.getElem?_eq_some_iff.mp found).1
    rw [List.getElem?_range inside, Option.map_some, formed.connection_index found]

/-- No two connections leaving a region are one reference. -/
theorem WellFormed.references_nodup (formed : network.WellFormed) (index : Nat) :
    ((network.leaving index).map fun connection => (connection.index : Int)).Nodup := by
  have indices : ((network.leaving index).map Connection.index).Nodup := by
    refine (List.filter_sublist.map Connection.index).nodup ?_
    rw [formed.indices_eq_range]
    exact List.nodup_range
  have references := indices.map fun _ _ => Int.ofNat.inj
  rwa [List.map_map] at references

theorem outgoing_of_lt {index : Nat} (inside : index < network.size) :
    network.outgoing index = .ok (network.leaving index) := by
  simp only [outgoing, indexOf_of_lt inside]
  rfl

/-! ## Arcs -/

/-- Whether a connection leads from one region to another. -/
def joins (source : Nat) (target : Int) (connection : Connection α) : Bool :=
  connection.source == source && connection.destination == some target

theorem find?_addArc (arcs : Table (Nat × Int) Nat) (connection : Connection α) (source : Nat)
    (target : Int) :
    (addArc arcs connection).find? (source, target) =
      if joins source target connection then some connection.index
      else arcs.find? (source, target) := by
  unfold addArc joins
  cases destination : connection.destination with
  | none => simp
  | some other =>
    dsimp only
    rw [Table.find?_insert]
    by_cases same : connection.source = source ∧ other = target
    · rw [if_pos (by rw [same.1, same.2]), if_pos (by simp [same.1, same.2])]
    · rw [if_neg (by simpa using same), if_neg (by simpa using same)]

/-- The last connection of a pair stands for it in the table of arcs. -/
theorem find?_foldl_addArc (connections : List (Connection α)) (arcs : Table (Nat × Int) Nat)
    (source : Nat) (target : Int) :
    (connections.foldl addArc arcs).find? (source, target) =
      ((connections.filter (joins source target)).getLast?.map fun last => last.index).or
        (arcs.find? (source, target)) := by
  induction connections generalizing arcs with
  | nil => rfl
  | cons connection others hypothesis =>
    rw [List.foldl_cons, hypothesis, find?_addArc, List.filter_cons]
    by_cases joined : joins source target connection = true
    · rw [if_pos joined, if_pos joined, List.getLast?_cons]
      cases (others.filter (joins source target)).getLast? with
      | none => rfl
      | some last => rfl
    · rw [if_neg joined, if_neg joined]

theorem WellFormed.find?_arcs (formed : network.WellFormed) (source : Nat) (target : Int) :
    network.arcs.find? (source, target) =
      (network.connections.filter (joins source target)).getLast?.map fun last => last.index := by
  rw [formed.arcs_eq, find?_foldl_addArc, Table.find?_empty, Option.or_none]

/-- Between two regions the last connection is found that leads from the one to the other. -/
theorem WellFormed.connectionBetween_eq (formed : network.WellFormed) {source target : Nat}
    (isSource : source < network.size) (isTarget : target < network.size) :
    network.connectionBetween source target =
      .ok (network.connections.filter (joins source target)).getLast? := by
  simp only [connectionBetween, indexOf_of_lt isSource, indexOf_of_lt isTarget, bind, Except.bind,
    formed.find?_arcs]
  cases isLast : (network.connections.filter (joins source target)).getLast? with
  | none => rfl
  | some last =>
    have member := (List.mem_filter.mp (List.mem_of_getLast? isLast)).1
    simp only [Option.map_some, connectionAt, entryAt_of_lookup (formed.lookup_of_mem member)]
    rfl

/-- Where no pair of regions has two connections, a connection is found from its ends. -/
theorem WellFormed.connectionBetween_of_mem (formed : network.WellFormed)
    (simple : network.Simple) {connection : Connection α}
    (member : connection ∈ network.connections) {source target : Nat}
    (isSource : connection.source = source) (isTarget : connection.destination = some ↑target) :
    network.connectionBetween source target = .ok (some connection) := by
  have sourceInside := formed.source_lt connection member
  have targetInside := formed.destination_lt connection member target isTarget
  have matching : connection ∈ network.connections.filter (joins source target) := by
    refine List.mem_filter.mpr ⟨member, ?_⟩
    simp only [joins, isSource, isTarget, beq_self_eq_true, Bool.and_self]
  rw [formed.connectionBetween_eq (isSource ▸ sourceInside)
    (show target < network.size by omega)]
  cases isLast : (network.connections.filter (joins source target)).getLast? with
  | none =>
    rw [List.getLast?_eq_none_iff.mp isLast] at matching
    cases matching
  | some last =>
    have parts := List.mem_filter.mp (List.mem_of_getLast? isLast)
    simp only [joins, Bool.and_eq_true, beq_iff_eq] at parts
    have same : last = connection := by
      refine simple last parts.1 connection member (parts.2.1.trans isSource.symm)
        (parts.2.2.trans isTarget.symm) ?_
      simp only [Connection.isDead, parts.2.2, Option.isNone_some]
    rw [same]

/-! ## Numbering -/

/-- What numbering makes of passages: connections in the same order, numbered on from an index. -/
theorem numberPassages_lookup {size start : Nat} {passages : List (Int × Passage α)}
    {connections : List (Connection α)}
    (numbered : numberPassages size start passages = .ok connections) {place : Nat}
    {connection : Connection α} (found : connections[place]? = some connection) :
    connection.index = start + place ∧ connection.source < size ∧
      passages[place]? = some (↑connection.source, connection.toPassage) := by
  induction passages generalizing start connections place with
  | nil =>
    cases numbered
    cases found
  | cons first rest hypothesis =>
    rcases first with ⟨source, passage⟩
    rw [numberPassages] at numbered
    split at numbered
    · rename_i inside
      rcases bind_eq_ok.mp numbered with ⟨others, numberedRest, same⟩
      cases same
      cases place with
      | zero =>
        cases found
        refine ⟨rfl, (Int.toNat_lt inside.1).mpr inside.2, ?_⟩
        rw [List.getElem?_cons_zero, Int.toNat_of_nonneg inside.1]
      | succ place =>
        rcases hypothesis numberedRest found with ⟨isIndex, isSource, isPassage⟩
        exact ⟨by omega, isSource, isPassage⟩
    · cases numbered

/-- Numbering keeps the passages and their sources. -/
theorem numberPassages_entries {size start : Nat} {passages : List (Int × Passage α)}
    {connections : List (Connection α)}
    (numbered : numberPassages size start passages = .ok connections) :
    connections.map (fun connection => ((connection.source : Int), connection.toPassage)) =
      passages := by
  induction passages generalizing start connections with
  | nil =>
    cases numbered
    rfl
  | cons first rest hypothesis =>
    rcases first with ⟨source, passage⟩
    rw [numberPassages] at numbered
    split at numbered
    · rename_i inside
      rcases bind_eq_ok.mp numbered with ⟨others, numberedRest, same⟩
      cases same
      rw [List.map_cons, hypothesis numberedRest, Int.toNat_of_nonneg inside.1]
    · cases numbered

/-- Passages that leave places can be numbered. -/
theorem exists_numberPassages {size : Nat} (start : Nat) {passages : List (Int × Passage α)}
    (inside : ∀ entry ∈ passages, 0 ≤ entry.1 ∧ entry.1 < size) :
    ∃ connections, numberPassages size start passages = .ok connections := by
  induction passages generalizing start with
  | nil => exact ⟨[], rfl⟩
  | cons first rest hypothesis =>
    rcases hypothesis (start + 1) fun entry member =>
      inside entry (List.mem_cons_of_mem _ member) with ⟨others, numbered⟩
    rw [numberPassages, if_pos (inside first List.mem_cons_self), numbered]
    exact ⟨_, rfl⟩

/-- Places and passages are numbered by position. -/
theorem numbered_of_ofPlaces {places : List (Place α)} {passages : List (Int × Passage α)}
    (made : ofPlaces places passages = .ok network) : network.Numbered := by
  rcases bind_eq_ok.mp made with ⟨connections, numbered, same⟩
  cases same
  constructor
  · intro index region found
    simp only [ofLists, number, List.getElem?_map, List.getElem?_zipIdx, Option.map_eq_some_iff]
      at found
    rcases found with ⟨⟨place, position⟩, ⟨other, -, same⟩, rfl⟩
    cases same
    exact Nat.zero_add index
  · intro index connection found
    have parts := numberPassages_lookup numbered found
    rw [parts.1, Nat.zero_add]

/-- Numbered places and passages make a well-formed network if all destinations are places. -/
theorem wellFormed_of_ofPlaces {places : List (Place α)} {passages : List (Int × Passage α)}
    (made : ofPlaces places passages = .ok network)
    (inside : ∀ entry ∈ passages, ∀ destination, entry.2.destination = some destination →
      0 ≤ destination ∧ destination < places.length) : network.WellFormed := by
  have byPosition := numbered_of_ofPlaces made
  rcases bind_eq_ok.mp made with ⟨connections, numbered, same⟩
  cases same
  have size : (ofLists (number places) connections).size = places.length := by
    simp only [Network.size, ofLists, number, List.length_map, List.length_zipIdx]
  refine ⟨byPosition.region_index, byPosition.connection_index, ?_, ?_, rfl⟩
  · intro connection member
    rcases List.mem_iff_getElem?.mp member with ⟨place, found⟩
    rw [size]
    exact (numberPassages_lookup numbered found).2.1
  · intro connection member destination isDestination
    rcases List.mem_iff_getElem?.mp member with ⟨place, found⟩
    rw [size]
    exact inside _ (List.mem_of_getElem? (numberPassages_lookup numbered found).2.2) destination
      isDestination

/-- Where no two passages join the same pair of places, the network is simple. -/
theorem simple_of_ofPlaces {places : List (Place α)} {passages : List (Int × Passage α)}
    (made : ofPlaces places passages = .ok network)
    (apart : passages.Pairwise fun first second => first.1 = second.1 →
      first.2.destination = second.2.destination → first.2.destination = none) :
    network.Simple := by
  rcases bind_eq_ok.mp made with ⟨connections, numbered, same⟩
  cases same
  intro first isFirst second isSecond sameSource sameDestination live
  rcases List.mem_iff_getElem?.mp isFirst with ⟨place, atPlace⟩
  rcases List.mem_iff_getElem?.mp isSecond with ⟨other, atOther⟩
  have partsFirst := (numberPassages_lookup numbered atPlace).2.2
  have partsSecond := (numberPassages_lookup numbered atOther).2.2
  have notNone : first.destination ≠ none := by
    intro dead
    simp only [Connection.isDead, dead, Option.isNone_none, Bool.true_eq_false] at live
  rcases List.getElem?_eq_some_iff.mp partsFirst with ⟨placeBound, atFirst⟩
  rcases List.getElem?_eq_some_iff.mp partsSecond with ⟨otherBound, atSecond⟩
  rcases Nat.lt_trichotomy place other with less | level | more
  · have conflict := List.pairwise_iff_getElem.mp apart place other placeBound otherBound less
    rw [atFirst, atSecond] at conflict
    exact absurd (conflict (congrArg Int.ofNat sameSource) sameDestination) notNone
  · subst level
    exact Option.some.inj (atPlace.symm.trans atOther)
  · have conflict := List.pairwise_iff_getElem.mp apart other place otherBound placeBound more
    rw [atFirst, atSecond] at conflict
    have dead := conflict (congrArg Int.ofNat sameSource).symm sameDestination.symm
    exact absurd (sameDestination.trans dead) notNone

end Egress.Network
