import Egress.Proofs.Frontier
import Egress.Proofs.Knowledge
import Egress.Proofs.Sequence

/-!
# Discovering region after region

An agent that began without knowledge discovers one region after another, and some calls name no
region at all.  Everything that it knows can be read off the list of calls: the known regions are
those that the calls visit, in the order of their first visits, the known connections are those that
leave visited regions, and the frontier is what these lead to and no call has visited, in the order
in which it comes into sight.

With one more region discovered, at most this region leaves the frontier, and what its connections
lead to joins it unless it is known.  This holds of all networks, with loops, parallel connections
and ways out.
-/

namespace Egress

variable {α : Type}

namespace Network

/-- The regions that references name, in the order of their first visits. -/
def visits (network : Network α) (references : List Int) : List Nat :=
  (references.filterMap fun reference => (network.indexOf reference).toOption).eraseDups

variable {network : Network α} {references : List Int} {index : Nat}

theorem mem_visits : index ∈ network.visits references ↔
    (index : Int) ∈ references ∧ index < network.size := by
  unfold visits
  rw [List.mem_eraseDups, List.mem_filterMap]
  constructor
  · rintro ⟨reference, member, found⟩
    cases isIndex : network.indexOf reference with
    | error fault =>
      rw [isIndex] at found
      cases found
    | ok other =>
      rw [isIndex] at found
      cases found
      rcases indexOf_eq_ok_iff.mp isIndex with ⟨rfl, inside⟩
      exact ⟨member, inside⟩
  · rintro ⟨member, inside⟩
    exact ⟨index, member, by rw [indexOf_of_lt inside]; rfl⟩

/-- A reference that names no region is no visit. -/
theorem visits_concat_of_error {reference : Int} {fault : Fault α}
    (missing : network.indexOf reference = .error fault) :
    network.visits (references ++ [reference]) = network.visits references := by
  unfold visits
  rw [List.filterMap_append]
  simp [missing, Except.toOption]

/-- With one visit more, a region is new or was visited before. -/
theorem visits_concat_of_ok {reference : Int} (isIndex : network.indexOf reference = .ok index) :
    network.visits (references ++ [reference]) =
      if index ∈ network.visits references then network.visits references
      else network.visits references ++ [index] := by
  unfold visits
  rw [List.filterMap_append, List.filterMap_cons_some (b := index) (by rw [isIndex]; rfl),
    List.filterMap_nil, eraseDups_concat]
  simp only [List.mem_eraseDups]

end Network

namespace Awareness

/-- Try to discover a region.  Beside what is known after the call stands its answer. -/
def attempt (awareness : Awareness α) (reference : Int) :
    Awareness α × Except (Fault α) Bool :=
  match awareness.discover reference with
  | .ok (after, fresh) => (after, .ok fresh)
  | .error fault => (awareness, .error fault)

/-- Discover one region after another, whether the calls succeed or fail. -/
def discoverAll (awareness : Awareness α) (references : List Int) : Awareness α :=
  references.foldl (fun awareness reference => (awareness.attempt reference).1) awareness

variable {awareness after : Awareness α} {reference : Int} {fresh : Bool}

/-! ## One call -/

/-- What a call does where not everything is known. -/
theorem attempt_eq (partly : awareness.complete = false) (reference : Int) :
    awareness.attempt reference =
      match awareness.network.indexOf reference with
      | .error fault => (awareness, .error fault)
      | .ok index =>
        if index ∈ awareness.discovered then (awareness, .ok false)
        else ({ awareness with discovered := awareness.discovered ++ [index] }, .ok true) := by
  unfold attempt discover
  cases awareness.network.indexOf reference with
  | error fault => rfl
  | ok index =>
    by_cases old : index ∈ awareness.discovered
    · simp [bind, Except.bind, pure, Except.pure, partly, old]
    · simp [bind, Except.bind, pure, Except.pure, partly, old]

/-- A call that succeeds makes one region known and no other. -/
theorem knows_discover_iff (discovered : awareness.discover reference = .ok (after, fresh))
    (region : Int) : after.Knows region ↔ awareness.Knows region ∨ region = reference := by
  rcases discover_cases discovered with ⟨isKnown, rfl⟩ | ⟨-, index, rfl, rfl⟩
  · exact ⟨Or.inl, fun either => either.elim id fun same => same ▸ isKnown⟩
  · simp [Knows, or_assoc]

/-- What a call that succeeds makes of the frontier: it takes the region out of it and adds what the
connections of the region lead to, unless that is known. -/
theorem mem_frontier_discover (discovered : awareness.discover reference = .ok (after, fresh))
    (region : Int) :
    region ∈ after.frontierIndices ↔ region ≠ reference ∧
      (region ∈ awareness.frontierIndices ∨ ¬ awareness.Knows region ∧
        ∃ connection ∈ awareness.network.connections,
          connection.source = reference ∧ connection.destination = some region) := by
  have sameNetwork := (grows_of_discover discovered).1.network
  simp only [mem_frontierIndices, sameNetwork, knows_discover_iff discovered]
  constructor
  · rintro ⟨unknown, connection, member, isKnown | isSource, isEnd⟩
    · rw [not_or] at unknown
      exact ⟨unknown.2, Or.inl ⟨unknown.1, connection, member, isKnown, isEnd⟩⟩
    · rw [not_or] at unknown
      exact ⟨unknown.2, Or.inr ⟨unknown.1, connection, member, isSource, isEnd⟩⟩
  · rintro ⟨other, ⟨unknown, connection, member, isKnown, isEnd⟩ |
      ⟨unknown, connection, member, isSource, isEnd⟩⟩
    · exact ⟨not_or.mpr ⟨unknown, other⟩, connection, member, Or.inl isKnown, isEnd⟩
    · exact ⟨not_or.mpr ⟨unknown, other⟩, connection, member, Or.inr isSource, isEnd⟩

/-! ## Many calls -/

theorem discoverAll_concat (awareness : Awareness α) (references : List Int) (reference : Int) :
    awareness.discoverAll (references ++ [reference]) =
      ((awareness.discoverAll references).attempt reference).1 := by
  rw [discoverAll, List.foldl_append]
  rfl

variable {references : List Int}

/-- Calls change nothing but the discovered regions, and these are the regions visited. -/
theorem discoverAll_eq (network : Network α) (settings : Settings α) (references : List Int) :
    (ofNetwork network false settings).discoverAll references =
      { ofNetwork network false settings with discovered := network.visits references } := by
  induction references using List.reverseRecOn with
  | nil => rfl
  | append_singleton references reference hypothesis =>
    rw [discoverAll_concat, hypothesis, attempt_eq rfl]
    dsimp only [ofNetwork]
    cases isIndex : network.indexOf reference with
    | error fault => rw [Network.visits_concat_of_error isIndex]
    | ok index =>
      rw [Network.visits_concat_of_ok isIndex]
      dsimp only
      split
      · rfl
      · rfl

/-- What an awareness that began without knowledge holds after calls to discover regions. -/
structure Learnt (network : Network α) (references : List Int) (awareness : Awareness α) :
    Prop where
  /-- The known regions are those visited, in the order of their first visits. -/
  known : ∃ known, awareness.knownRegions = .ok known ∧ known ⊆ network.regions ∧
    known.map Region.index = network.visits references
  /-- A visited region shows all its connections, and any other none. -/
  edges : ∀ index < network.size, awareness.edgesFrom index =
    .ok (if index ∈ network.visits references then network.leaving index else [])
  /-- The frontier is what is in sight of the visited regions. -/
  frontier : ∃ frontier, awareness.frontier = .ok frontier ∧ frontier ⊆ network.regions ∧
    frontier.map (fun region => (region.index : Int)) =
      network.sights (network.visits references)
  /-- One more call fails if it names no region, and otherwise says whether the visit is the first
  one. -/
  answer : ∀ reference, (awareness.attempt reference).2 =
    (network.indexOf reference).map fun _ => !references.contains reference
  /-- One more region that is discovered is on the frontier no more, and what it leads to is, unless
  that is known. -/
  onward : ∀ {reference after fresh}, awareness.discover reference = .ok (after, fresh) →
    ∃ before beyond, awareness.frontier = .ok before ∧ after.frontier = .ok beyond ∧
      ∀ region ∈ network.regions, region ∈ beyond ↔ region.index ≠ reference ∧
        (region ∈ before ∨ region.index ∉ network.visits references ∧
          ∃ connection ∈ network.connections,
            connection.source = reference ∧ connection.destination = some ↑region.index)

/-- Whoever has discovered what calls visit holds what can be read off their list. -/
theorem learnt_of_discovered {network : Network α} (sees : awareness.network = network)
    (formed : network.WellFormed) (partly : awareness.complete = false)
    (visited : awareness.discovered = network.visits references) :
    Learnt network references awareness := by
  subst sees
  have isKnown : ∀ index : Nat,
      awareness.Knows index ↔ index ∈ awareness.network.visits references := by
    intro index
    rw [knows_natCast_iff, partly, visited]
    exact or_iff_right Bool.false_ne_true
  constructor
  case known =>
    rw [← visited]
    apply knownRegions_of_lt formed.numbered partly
    intro index isDiscovered
    rw [visited] at isDiscovered
    exact (Network.mem_visits.mp isDiscovered).2
  case edges =>
    intro index inside
    simp only [edgesFrom_of_lt inside, isKnown]
  case frontier =>
    rcases frontier_spec formed with ⟨regions, frontier, within, indices⟩
    rw [← visited]
    exact ⟨regions, frontier, within, indices.trans (frontierIndices_eq partly)⟩
  case answer =>
    intro reference
    rw [attempt_eq partly]
    cases isIndex : awareness.network.indexOf reference with
    | error fault => rfl
    | ok index =>
      rcases Network.indexOf_eq_ok_iff.mp isIndex with ⟨rfl, inside⟩
      rw [visited]
      by_cases old : (index : Int) ∈ references
      · have again := Network.mem_visits.mpr ⟨old, inside⟩
        simp [again, old, Except.map]
      · have first : index ∉ awareness.network.visits references :=
          fun again => old (Network.mem_visits.mp again).1
        simp [first, old, Except.map]
  case onward =>
    intro reference after fresh discovered
    have grows := (grows_of_discover discovered).1
    have stillFormed : after.network.WellFormed := grows.network ▸ formed
    rcases frontier_spec formed with ⟨before, isBefore, -⟩
    rcases frontier_spec stillFormed with ⟨beyond, isBeyond, -⟩
    refine ⟨before, beyond, isBefore, isBeyond, fun region isRegion => ?_⟩
    have isAfter : region ∈ after.network.regions := grows.network ▸ isRegion
    rw [mem_frontier stillFormed isBeyond, and_iff_right isAfter, mem_frontier formed isBefore,
      and_iff_right isRegion, mem_frontier_discover discovered, isKnown]

/-- Whatever the calls were, failed ones among them, they leave what can be read off their list. -/
theorem learnt_discoverAll {network : Network α} (formed : network.WellFormed)
    (settings : Settings α) (references : List Int) :
    Learnt network references ((ofNetwork network false settings).discoverAll references) := by
  rw [discoverAll_eq]
  exact learnt_of_discovered rfl formed rfl rfl

/-! ## A tangle

Three regions, with a connection from one to itself, two parallel ones and a way out.
-/

/-- A place at the origin. -/
def knot (id : String) : Place Rat := ⟨id, "unknown", ⟨0, 0⟩, 1, 0⟩

/-- The passages of the tangle. -/
def tangleWays : List (Int × Passage Rat) :=
  [(0, some 0), (0, some 1), (0, some 1), (0, none), (1, some 2), (1, some 0), (2, some 1)].map
    fun (source, destination) => (source, ⟨destination, some 1, ⟨0, 0⟩⟩)

def tangle : Network Rat :=
  (Network.ofPlaces (["A", "B", "C"].map knot) tangleWays).toOption.getD default

/-- The second region of the tangle, a number beyond it, the first region, the second again and a
number below all regions. -/
def tangleCalls : List Int := [1, 7, 0, 1, -1]

theorem tangle_formed : tangle.WellFormed :=
  Network.wellFormed_of_ofPlaces (eq_ok_of_isOk (by decide +kernel) default) (by decide +kernel)

theorem learnt_in_tangle :
    tangle.WellFormed ∧
      Learnt tangle tangleCalls ((ofNetwork tangle false .defaults).discoverAll tangleCalls) :=
  ⟨tangle_formed, learnt_discoverAll tangle_formed .defaults tangleCalls⟩

example : tangle.visits tangleCalls = [1, 0] ∧ tangle.sights [1, 0] = [2] := by decide +kernel

end Awareness

end Egress
