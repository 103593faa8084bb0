import Egress.Proofs.Descent
import Egress.Proofs.Exploration
import Egress.Proofs.Reach

/-!
# The order of the frontier

The frontier that an agent sees holds each region behind the connections that leave known regions,
unless it is known itself, and holds it once.  Of any two of them the one to which the cheaper walk
leads comes first, where walks leave only known regions, and the one with the lower number if both
cost the same.

An agent may know regions from which it is cut off, having been taken there and back by something
other than a walk.  What lies behind those is on the frontier too, and comes last, by number.
-/

namespace Egress

namespace Awareness

/-- Seen from where an agent stands, a region is ahead of another: it is within reach at a lower
cost, or at the same cost with a lower number, or the other is out of reach, and of two regions out
of reach the one with the lower number is ahead. -/
def Ahead (awareness : Awareness Rat) (here : Int) (first second : Region Rat) : Prop :=
  (∃ cost, awareness.Remains first.index here cost ∧
    ∀ other, awareness.Remains second.index here other →
      cost < other ∨ cost = other ∧ first.index < second.index) ∨
  (¬ ∃ walk, awareness.network.Walk awareness.Knows here walk first.index) ∧
    (¬ ∃ walk, awareness.network.Walk awareness.Knows here walk second.index) ∧
    first.index < second.index

/-- What an agent sees from where it stands: what lies behind the connections that leave known
regions, each once and in order. -/
structure Outlook (awareness : Awareness Rat) (here : Int) (regions : List (Region Rat)) :
    Prop where
  mem_iff : ∀ region, region ∈ regions ↔ region ∈ awareness.network.regions ∧
    ¬ awareness.Knows region.index ∧ ∃ connection ∈ awareness.network.connections,
      awareness.Knows connection.source ∧ connection.destination = some ↑region.index
  nodup : (regions.map Region.index).Nodup
  /-- Whoever knows everything has nothing to explore. -/
  complete : awareness.complete = true → regions = []
  inOrder : regions.Pairwise (awareness.Ahead here)

variable {awareness : Awareness Rat} {start : Nat} {domain : Int → Prop}
  {final : Search.State Rat} {region : Int}

/-! ## Labels and what remains -/

theorem Sound.remains_of_label (sound : awareness.Sound)
    (outcome : Search.Outcome awareness.arcsFrom awareness.Weights domain start none final)
    {label : Label Rat} (found : final.labels.find? region = some label) :
    awareness.Remains region start label.cost :=
  sound.remains_of_shortest (sound.shortest_of_label outcome (Or.inl rfl) found)

/-- A region without a label is out of reach. -/
theorem Sound.no_walk_of_find?_eq_none (sound : awareness.Sound)
    (outcome : Search.Outcome awareness.arcsFrom awareness.Weights domain start none final)
    (missing : final.labels.find? region = none) :
    ¬ ∃ walk, awareness.network.Walk awareness.Knows start walk region := by
  rintro ⟨walk, isWalk⟩
  rcases sound.weighed.label_of_walk outcome (Or.inl rfl) isWalk with ⟨label, total, found, -⟩
  cases missing.symm.trans found

/-- Regions that are at most as far by their labels are ahead. -/
theorem Sound.ahead_of_atMostAsFar (sound : awareness.Sound)
    (outcome : Search.Outcome awareness.arcsFrom awareness.Weights domain start none final)
    {first second : Region Rat} (apart : first.index ≠ second.index)
    (atMost : Guidance.AtMostAsFar final.labels first second) :
    awareness.Ahead start first second := by
  unfold Guidance.AtMostAsFar at atMost
  cases isFirst : final.labels.find? first.index with
  | some label =>
    refine Or.inl ⟨label.cost, sound.remains_of_label outcome isFirst, fun other remains => ?_⟩
    cases isSecond : final.labels.find? second.index with
    | some further =>
      rw [isFirst, isSecond] at atMost
      cases remains.unique (sound.remains_of_label outcome isSecond)
      rcases lt_or_eq_of_le atMost.1 with less | equal
      · exact Or.inl less
      · exact Or.inr ⟨equal, lt_of_le_of_ne (atMost.2 (le_of_eq equal.symm)) apart⟩
    | none =>
      rcases remains.2 with ⟨walk, isWalk, -⟩
      exact absurd ⟨walk, isWalk⟩ (sound.no_walk_of_find?_eq_none outcome isSecond)
  | none =>
    cases isSecond : final.labels.find? second.index with
    | some further =>
      rw [isFirst, isSecond] at atMost
      exact atMost.elim
    | none =>
      rw [isFirst, isSecond] at atMost
      exact Or.inr ⟨sound.no_walk_of_find?_eq_none outcome isFirst,
        sound.no_walk_of_find?_eq_none outcome isSecond, lt_of_le_of_ne atMost apart⟩

/-- Ranking the frontier by the labels of a search gives the outlook from where it started. -/
theorem Sound.outlook (sound : awareness.Sound)
    (outcome : Search.Outcome awareness.arcsFrom awareness.Weights domain start none final)
    {regions : List (Region Rat)} (frontier : awareness.frontier = .ok regions) :
    awareness.Outlook start (Ranking.ofList (Guidance.nearer final.labels) regions) := by
  have comparable : ∀ region ∈ regions,
      Guidance.Comparable awareness.Weights final.labels region :=
    fun _ _ label found => ⟨outcome.summed.sums _ label found, rfl⟩
  rcases Ranking.ofList_spec (Guidance.nearer_precedence sound.laws final.labels) comparable with
    ⟨ranked, same⟩
  have mem_iff : ∀ region, region ∈ Ranking.ofList (Guidance.nearer final.labels) regions ↔
      region ∈ awareness.network.regions ∧ ¬ awareness.Knows region.index ∧
        ∃ connection ∈ awareness.network.connections,
          awareness.Knows connection.source ∧ connection.destination = some ↑region.index := by
    intro region
    rw [same.mem_iff, mem_frontier sound.formed frontier, mem_frontierIndices]
  have distinct : (regions.map Region.index).Nodup := by
    rcases frontier_spec sound.formed with ⟨found, isFound, -, indices⟩
    cases isFound.symm.trans frontier
    have once := awareness.nodup_frontierIndices
    rw [← indices] at once
    exact List.Nodup.of_map Int.ofNat (by rwa [List.map_map])
  have nodup := (same.map Region.index).nodup_iff.mpr distinct
  refine ⟨mem_iff, nodup, ?_, ?_⟩
  · intro knowsAll
    refine List.eq_nil_iff_forall_not_mem.mpr fun region member => ?_
    exact ((mem_iff region).mp member).2.1 (Or.inl knowsAll)
  · have apart := List.pairwise_map.mp nodup
    refine (ranked.and apart).imp_of_mem ?_
    rintro first second isFirst isSecond ⟨behind, different⟩
    apply sound.ahead_of_atMostAsFar outcome different
    exact (Guidance.nearer_eq_false_iff sound.laws (comparable first (same.mem_iff.mp isFirst))
      (comparable second (same.mem_iff.mp isSecond))).mp behind

end Awareness

namespace Guidance

variable {σ : Type} [Outline σ Rat]

/-- An agent is shown the outlook from the region in which it stands. -/
theorem frontier_outlook {network : Network Rat} {suite : Suite Rat} {field : Option Nat}
    {settings : Settings Rat} (priced : network.Priced settings) {building : Building Rat σ}
    {guidance : Guidance Rat}
    (reachable : Reachable building (ofNetwork network suite field settings) guidance)
    {pid : Int} {member : Member Rat} (isMember : guidance.members.find? pid = some member) :
    member.awareness.network = network ∧ ∃ here regions,
      network.regionFor building member.agent.position member.agent.floor = .ok here ∧
      member.agent.region = some ↑here.index ∧ guidance.frontier pid = .ok regions ∧
      member.awareness.Outlook here.index regions := by
  have placed := (reachable.consistent rfl).placed pid member isMember
  rcases placed.sound priced with ⟨sound, sameNetwork⟩
  have isNetwork : member.awareness.network = network := sameNetwork
  rcases placed.located with ⟨here, located, isHere, -⟩
  have inside : here.index < member.awareness.network.size :=
    sound.formed.region_lt_of_mem (isNetwork ▸ Network.regionFor_mem located)
  rcases Awareness.frontier_spec sound.formed with ⟨regions, frontier, -⟩
  rcases sound.distances_outcome sound.laws inside with ⟨final, searched, outcome⟩
  exact ⟨isNetwork, here, _, located, isHere, frontier_eq isMember isHere frontier searched,
    sound.outlook outcome frontier⟩

/-! ## Taken past the middle of a row -/

/-- Four square rooms in a row. -/
def ward : Building Rat (Box Rat) where
  rooms := [
    ⟨"A", ⟨⟨0, 0⟩, ⟨2, 2⟩⟩, .unknown, 0⟩,
    ⟨"B", ⟨⟨2, 0⟩, ⟨4, 2⟩⟩, .unknown, 0⟩,
    ⟨"C", ⟨⟨4, 0⟩, ⟨6, 2⟩⟩, .unknown, 0⟩,
    ⟨"D", ⟨⟨6, 0⟩, ⟨8, 2⟩⟩, .unknown, 0⟩]
  portals := []
  doors := []
  index := none

def wardNetwork : Network Rat := (ward.network Settings.defaults).toOption.getD default

theorem ward_priced : wardNetwork.Priced Settings.defaults :=
  Building.network_priced (eq_ok_of_isOk (by decide +kernel) default) rfl rfl rfl
    (by decide +kernel) (by decide +kernel)

def emptyWard : Guidance Rat := ofNetwork wardNetwork (.standard none .defaults) none .defaults

def calmWard : World Rat (Box Rat) := ⟨ward, fun _ => .ofNetwork wardNetwork⟩

/-- An agent was registered without knowledge in the first room and taken to the last. -/
def taken : Guidance Rat :=
  (((emptyWard.addAgent calmWard walker (some false)).toOption.getD emptyWard).move
    calmWard 1 ⟨7, 1⟩ none).1

theorem taken_reachable : Reachable ward emptyWard taken :=
  .move calmWard.conditions 1 _ none
    (.add calmWard.conditions walker (some false) .start
      (eq_ok_of_isOk (by decide +kernel) emptyWard))

theorem frontier_outlook_in_ward :
    wardNetwork.Priced .defaults ∧ Reachable ward emptyWard taken ∧
    ∃ member, taken.members.find? 1 = some member ∧
      member.awareness.network = wardNetwork ∧ ∃ here regions,
        wardNetwork.regionFor ward member.agent.position member.agent.floor = .ok here ∧
        member.agent.region = some ↑here.index ∧ taken.frontier 1 = .ok regions ∧
        member.awareness.Outlook here.index regions := by
  have registered : (taken.members.find? 1).isSome = true := by decide +kernel
  rcases Option.isSome_iff_exists.mp registered with ⟨member, isMember⟩
  exact ⟨ward_priced, taken_reachable, member, isMember,
    frontier_outlook ward_priced taken_reachable isMember⟩

-- the second room is seen from the first, from which the agent is cut off
example : (taken.frontier 1).toOption.map (List.map Region.index) = some [2, 1] := by
  decide +kernel

end Guidance

end Egress
