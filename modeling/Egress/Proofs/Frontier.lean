import Egress.Guidance
import Egress.Proofs.Ranking
import Egress.Proofs.Route
import Egress.Proofs.Sequence

/-!
# The frontier

The frontier of an awareness is made of the unknown regions behind connections that leave known
ones, each of them once, in the order in which they come into sight.  A walk that leaves the known
regions crosses it: up to the first unknown region the walk passes only known ones, so this region
is on the frontier and within reach.

The frontier is ranked by cost.  Where all costs are finite, the ranking is a precedence and puts
the regions within reach first.
-/

namespace Egress

variable {α : Type}

namespace Network

/-- The unvisited regions to which connections lead that leave visited ones, in the order in which
they come into sight. -/
def sights (network : Network α) (visited : List Nat) : List Int :=
  (((visited.flatMap network.leaving).filterMap fun connection => connection.destination).filter
    fun region => !(visited.map Int.ofNat).contains region).eraseDups

theorem mem_sights {network : Network α} {visited : List Nat} {region : Int} :
    region ∈ network.sights visited ↔ region ∉ visited.map Int.ofNat ∧
      ∃ connection ∈ network.connections,
        connection.source ∈ visited ∧ connection.destination = some region := by
  unfold sights
  simp only [List.mem_eraseDups, List.mem_filter, List.mem_filterMap, List.mem_flatMap,
    mem_leaving, Bool.not_eq_true', List.contains_eq_mem, decide_eq_false_iff_not]
  constructor
  · rintro ⟨⟨connection, ⟨index, isVisited, member, rfl⟩, isEnd⟩, unvisited⟩
    exact ⟨unvisited, connection, member, isVisited, isEnd⟩
  · rintro ⟨unvisited, connection, member, isVisited, isEnd⟩
    exact ⟨⟨connection, ⟨_, isVisited, member, rfl⟩, isEnd⟩, unvisited⟩

end Network

namespace Awareness

variable {awareness : Awareness α}

/-! ## The order of the frontier -/

/-- Ends that come into sight are added behind those seen before, each once. -/
theorem newEnds_eq (discovered : List Nat) (seen : List Int) (connections : List (Connection α)) :
    newEnds discovered seen.eraseDups connections =
      (seen ++ (connections.filterMap fun connection => connection.destination).filter
        fun region => !(discovered.map Int.ofNat).contains region).eraseDups := by
  induction connections generalizing seen with
  | nil => simp [newEnds]
  | cons connection others hypothesis =>
    unfold newEnds at hypothesis ⊢
    rw [List.foldl_cons]
    cases isEnd : connection.destination with
    | none =>
      simp only [List.filterMap_cons, isEnd]
      exact hypothesis seen
    | some region =>
      simp only [List.filterMap_cons, isEnd]
      rw [List.filter_cons]
      by_cases old : (discovered.map Int.ofNat).contains region = true
      · rw [old]
        exact hypothesis seen
      · rw [Bool.not_eq_true] at old
        have onward := hypothesis (seen ++ [region])
        rw [eraseDups_concat, List.append_assoc] at onward
        rw [old]
        refine Eq.trans ?_ onward
        congr 1
        simp [List.mem_eraseDups]

theorem foldl_newEnds_eq (discovered known : List Nat) (seen : List Int) :
    known.foldl (fun seen index => newEnds discovered seen (awareness.network.leaving index))
        seen.eraseDups =
      (seen ++ ((known.flatMap awareness.network.leaving).filterMap
        fun connection => connection.destination).filter
          fun region => !(discovered.map Int.ofNat).contains region).eraseDups := by
  induction known generalizing seen with
  | nil => simp
  | cons index others hypothesis =>
    rw [List.foldl_cons, newEnds_eq, hypothesis, List.flatMap_cons, List.filterMap_append,
      List.filter_append, List.append_assoc]

/-- The frontier is what is in sight from the discovered regions. -/
theorem frontierIndices_eq (partly : awareness.complete = false) :
    awareness.frontierIndices = awareness.network.sights awareness.discovered := by
  unfold frontierIndices
  rw [partly, if_neg Bool.false_ne_true]
  exact foldl_newEnds_eq awareness.discovered awareness.discovered []

/-! ## What is on the frontier -/

/-- The frontier is what lies behind the connections that leave known regions and is not known. -/
theorem mem_frontierIndices {region : Int} :
    region ∈ awareness.frontierIndices ↔ ¬ awareness.Knows region ∧
      ∃ connection ∈ awareness.network.connections,
        awareness.Knows connection.source ∧ connection.destination = some region := by
  cases knowsAll : awareness.complete with
  | true =>
    unfold frontierIndices
    rw [if_pos knowsAll]
    constructor
    · exact fun member => absurd member List.not_mem_nil
    · rintro ⟨unknown, -⟩
      exact absurd (Or.inl knowsAll) unknown
  | false =>
    have incomplete : ¬ awareness.complete = true := Bool.eq_false_iff.mp knowsAll
    have isKnown : ∀ index : Nat, awareness.Knows index ↔ index ∈ awareness.discovered :=
      fun _ => knows_natCast_iff.trans (or_iff_right incomplete)
    have isUnknown : ¬ awareness.Knows region ↔ region ∉ awareness.discovered.map Int.ofNat :=
      not_congr (or_iff_right incomplete)
    rw [frontierIndices_eq knowsAll, Network.mem_sights]
    simp only [isKnown, isUnknown]

theorem nodup_frontierIndices (awareness : Awareness α) : awareness.frontierIndices.Nodup := by
  cases knowsAll : awareness.complete with
  | true =>
    unfold frontierIndices
    rw [if_pos knowsAll]
    exact .nil
  | false =>
    rw [frontierIndices_eq knowsAll]
    exact nodup_eraseDups _

/-- The regions of a frontier are found by their indices. -/
theorem frontier_spec (formed : awareness.network.WellFormed) :
    ∃ regions, awareness.frontier = .ok regions ∧ regions ⊆ awareness.network.regions ∧
      regions.map (fun region => (region.index : Int)) = awareness.frontierIndices := by
  apply mapM_of_views
  intro index member
  rcases (mem_frontierIndices.mp member).2 with ⟨connection, isConnection, -, isEnd⟩
  have inside := formed.destination_lt connection isConnection index isEnd
  rcases Int.eq_ofNat_of_zero_le inside.1 with ⟨position, rfl⟩
  rcases formed.region_of_lt (show position < awareness.network.size by omega) with
    ⟨region, atPosition, isIndex, -, found⟩
  exact ⟨region, found, List.mem_of_getElem? atPosition, congrArg Int.ofNat isIndex⟩

/-- A frontier holds those regions of the network whose indices are on it. -/
theorem mem_frontier (formed : awareness.network.WellFormed) {regions : List (Region α)}
    (frontier : awareness.frontier = .ok regions) {region : Region α} :
    region ∈ regions ↔
      region ∈ awareness.network.regions ∧ ↑region.index ∈ awareness.frontierIndices := by
  rcases frontier_spec formed with ⟨found, isFound, within, indices⟩
  cases isFound.symm.trans frontier
  rw [← indices, List.mem_map]
  constructor
  · exact fun member => ⟨within member, region, member, rfl⟩
  · rintro ⟨isRegion, other, member, same⟩
    exact formed.region_unique (within member) isRegion (Int.ofNat.inj same) ▸ member

/-- A walk from a known region stays among the known regions or crosses the frontier, and the part
of it up to there leaves only known regions. -/
theorem crosses_frontier {start region : Int} {walk : List (Connection α)}
    (isKnown : awareness.Knows start)
    (isWalk : awareness.network.Walk (fun _ => True) start walk region) :
    (awareness.Knows region ∧ awareness.network.Walk awareness.Knows start walk region) ∨
      ∃ crossed first, crossed ∈ awareness.frontierIndices ∧
        awareness.network.Walk awareness.Knows start first crossed := by
  induction isWalk with
  | stay => exact Or.inl ⟨isKnown, .stay⟩
  | @follow walk connection target isWalk _ member isTarget hypothesis =>
    rcases hypothesis with ⟨sourceKnown, knownWalk⟩ | crossing
    · have onward := knownWalk.follow sourceKnown member isTarget
      by_cases targetKnown : awareness.Knows target
      · exact Or.inl ⟨targetKnown, onward⟩
      · exact Or.inr ⟨target, _, mem_frontierIndices.mpr
          ⟨targetKnown, connection, member, sourceKnown, isTarget⟩, onward⟩
    · exact Or.inr crossing

end Awareness

namespace Guidance

variable [Scalar α] {weights : α → Prop} {labels : Labels α}

/-- Costs at which regions can be compared: sums of weights, and finite. -/
def Comparable (weights : α → Prop) (labels : Labels α) (region : Region α) : Prop :=
  ∀ label, labels.find? region.index = some label →
    IsCost weights label.cost ∧ Scalar.isFinite label.cost = true

/-- At most as far as another region; what is out of reach is farther than all else. -/
def AtMostAsFar (labels : Labels α) (first second : Region α) : Prop :=
  match labels.find? first.index, labels.find? second.index with
  | some label, some other => AtMost label.cost first.index other.cost second.index
  | some _, none => True
  | none, some _ => False
  | none, none => first.index ≤ second.index

theorem nearer_eq_false_iff (laws : LawfulCosts weights) {first second : Region α}
    (comparableFirst : Comparable weights labels first)
    (comparableSecond : Comparable weights labels second) :
    nearer labels second first = false ↔ AtMostAsFar labels first second := by
  unfold AtMostAsFar
  cases isFirst : labels.find? first.index with
  | some label =>
    have fine := comparableFirst label isFirst
    cases isSecond : labels.find? second.index with
    | some other =>
      simp only [nearer, isFirst, isSecond, Option.map_some]
      exact laws.test_eq_false_iff fine.1 (comparableSecond other isSecond).1
    | none =>
      simp only [nearer, isFirst, isSecond, Option.map_some, Option.map_none, isBoundless,
        Option.all_some, fine.2, Bool.not_true, Bool.false_and]
  | none =>
    cases isSecond : labels.find? second.index with
    | some other =>
      have fine := comparableSecond other isSecond
      simp only [nearer, isFirst, isSecond, Option.map_some, Option.map_none, isBoundless,
        Option.all_some, fine.2, Bool.not_true, Bool.false_and, Bool.false_eq_true, if_false,
        laws.le_refl fine.1, decide_true, Bool.true_eq_false]
    | none =>
      simp only [nearer, isFirst, isSecond, Option.map_none, decide_eq_false_iff_not, Nat.not_lt]

theorem nearer_precedence (laws : LawfulCosts weights) (labels : Labels α) :
    Precedence (nearer labels) (Comparable weights labels) := by
  refine .of_total (nearer_eq_false_iff laws) ?_ ?_
  · intro first second comparableFirst comparableSecond
    unfold AtMostAsFar
    cases isFirst : labels.find? first.index with
    | some label =>
      cases isSecond : labels.find? second.index with
      | some other =>
        exact laws.atMost_total (comparableFirst label isFirst).1
          (comparableSecond other isSecond).1
      | none => exact Or.inl trivial
    | none =>
      cases isSecond : labels.find? second.index with
      | some other => exact Or.inr trivial
      | none => exact Nat.le_total _ _
  · intro first second third comparableFirst comparableSecond comparableThird
    unfold AtMostAsFar
    cases isFirst : labels.find? first.index <;> cases isSecond : labels.find? second.index <;>
      cases isThird : labels.find? third.index
    all_goals intro lower upper
    · exact Nat.le_trans lower upper
    · exact upper
    · exact lower.elim
    · exact lower
    · exact trivial
    · exact upper.elim
    · exact trivial
    · exact laws.atMost_trans (comparableFirst _ isFirst).1 (comparableSecond _ isSecond).1
        (comparableThird _ isThird).1 lower upper

end Guidance

end Egress
