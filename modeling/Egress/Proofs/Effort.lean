import Egress.Proofs.Reach
import Egress.Proofs.Renumbering
import Egress.Proofs.Search.Effort

/-!
# Every search ends

Least costs are searched for in as many steps as there are live connections that leave known
regions, and one more.  A search that is not told to stop by then has nothing left to do, so the
turns that are allowed to it never show.  Whatever it labels has a way back to the start that passes
no region twice, and so is shorter than the list of regions.

None of this is a matter of costs.  Weights may be infinite or undefined, sums may overflow, and
entries may come out of the queue in any order that comparisons of such numbers leave.
-/

namespace Egress

variable {α : Type} [Scalar α]

namespace Awareness

variable {awareness : Awareness α} {source : Nat} {goal : Option Nat}

/-- The live connections that leave known regions. -/
def openings (awareness : Awareness α) : List (Connection α) :=
  awareness.network.connections.filter fun connection =>
    connection.destination.isSome && decide (awareness.Knows connection.source)

/-- The state of a search after some turns, if it is not over before. -/
def searchWithin (awareness : Awareness α) (turns source : Nat) (goal : Option Nat) :
    Except (Fault α) (Search.State α) :=
  Search.run awareness.openArcs (goal.map Int.ofNat) turns (Search.start source)

/-- How many entries a search takes from its queue in some turns. -/
def popsWithin (awareness : Awareness α) (turns source : Nat) (goal : Option Nat) : Nat :=
  Search.pops awareness.openArcs (goal.map Int.ofNat) turns (Search.start source)

/-! ## What a search asks -/

/-- A region that can be opened is one of the network, and its arcs to unsettled regions are
found. -/
theorem openArcs_eq_ok {settled : List Int} {region : Int} {found : List (Int × α)}
    (opened : awareness.openArcs settled region = .ok found) :
    awareness.network.Holds region ∧
      found = Search.ahead awareness.arcsFrom settled region := by
  rcases bind_eq_ok.mp opened with ⟨connections, isEdges, weighed⟩
  have held : awareness.network.Holds region := by
    by_contra outside
    rw [edgesFrom_of_missing (if_neg outside)] at isEdges
    cases isEdges
  refine ⟨held, ?_⟩
  rcases Int.eq_ofNat_of_zero_le held.1 with ⟨index, rfl⟩
  rw [edgesFrom_of_lt (Int.ofNat_lt.mp held.2)] at isEdges
  cases isEdges
  rw [arcs_of_weighed settled _ weighed, Search.ahead, arcsFrom_natCast]

/-- The arcs from a region belong to the live connections that leave it. -/
theorem arcsFrom_eq (awareness : Awareness α) (region : Int) : awareness.arcsFrom region =
    (awareness.openings.filter fun connection =>
      (connection.source : Int) == region).filterMap awareness.arc? := by
  rw [openings, List.filter_filter, List.filterMap_filter, arcsFrom]
  split
  · rename_i isKnown
    rw [List.filterMap_filter]
    refine List.filterMap_congr fun connection _ => ?_
    by_cases same : (connection.source : Int) = region
    · subst same
      cases isTarget : connection.destination with
      | none => simp [arc?, isTarget]
      | some target => simp [isKnown]
    · simp [same]
  · rename_i isUnknown
    symm
    rw [List.filterMap_eq_nil_iff]
    intro connection _
    refine if_neg ?_
    rw [Bool.and_eq_true, beq_iff_eq, Bool.and_eq_true, decide_eq_true_eq]
    rintro ⟨rfl, -, isKnown⟩
    exact isUnknown isKnown

/-- A search begins on its course, with no more to come than the entry for the start and one for
each opening. -/
theorem exists_course (awareness : Awareness α) (source : Nat) (goal : Option Int) :
    ∃ domain : Finset Int,
      (∀ region ∈ domain, ∀ arc ∈ awareness.arcsFrom region, arc.1 ∈ domain) ∧
      Search.Course awareness.openArcs goal awareness.arcsFrom domain source
        (Search.start (α := α) source) ∧
      Search.pending awareness.arcsFrom domain (Search.start (α := α) source) ≤
        1 + awareness.openings.length := by
  refine ⟨insert (source : Int) (awareness.openings.filterMap fun connection =>
    connection.destination).toFinset, ?_, .begin (Finset.mem_insert_self _ _), ?_⟩
  · intro region _ arc isArc
    rw [arcsFrom_eq] at isArc
    rcases List.mem_filterMap.mp isArc with ⟨connection, member, same⟩
    refine Finset.mem_insert_of_mem (List.mem_toFinset.mpr (List.mem_filterMap.mpr ?_))
    exact ⟨connection, List.mem_of_mem_filter member, (arc?_eq_some_iff.mp same).1⟩
  · rw [Search.pending_begin]
    refine Nat.add_le_add_left (le_trans (Finset.sum_le_sum fun region _ => ?_)
      (sum_length_filter_source awareness.openings _)) 1
    rw [arcsFrom_eq]
    exact List.length_filterMap_le _ _

/-! ## How a search ends -/

theorem follows_openArcs (awareness : Awareness α) :
    Search.Follows awareness.openArcs awareness.arcsFrom :=
  fun _ _ _ opened => (openArcs_eq_ok opened).2

theorem popsWithin_le (awareness : Awareness α) (turns source : Nat) (goal : Option Nat) :
    awareness.popsWithin turns source goal ≤ 1 + awareness.openings.length := by
  rcases awareness.exists_course source (goal.map Int.ofNat) with ⟨domain, closed, course, few⟩
  exact (course.pops_le awareness.follows_openArcs closed turns).trans few

theorem nodup_of_searchWithin {turns : Nat} {state : Search.State α}
    (searched : awareness.searchWithin turns source goal = .ok state) : state.settled.Nodup := by
  rcases awareness.exists_course source (goal.map Int.ofNat) with ⟨domain, closed, course, -⟩
  exact course.distinct awareness.follows_openArcs closed searched

/-- With a turn for each opening and one more, a search comes to its end. -/
theorem searchWithin_succ {turns : Nat} (enough : 1 + awareness.openings.length ≤ turns) :
    awareness.searchWithin (turns + 1) source goal = awareness.searchWithin turns source goal ∧
      ∀ final, awareness.searchWithin turns source goal = .ok final →
        final.queue.size = 0 ∨ ∃ region ∈ final.settled, goal.map Int.ofNat = some region :=
  Search.run_of_few ((awareness.popsWithin_le (turns + 1) source goal).trans enough)

omit [Scalar α] in
/-- The turns that a search is given are enough. -/
theorem openings_within_turns (awareness : Awareness α) :
    1 + awareness.openings.length ≤ awareness.network.connections.length + 2 := by
  have fewer : awareness.openings.length ≤ awareness.network.connections.length :=
    List.length_filter_le _ _
  omega

theorem searchWithin_eq {turns : Nat} (enough : 1 + awareness.openings.length ≤ turns) :
    awareness.searchWithin turns source goal = awareness.search source goal := by
  have same : ∀ turns, 1 + awareness.openings.length ≤ turns →
      awareness.searchWithin turns source goal =
        awareness.searchWithin (1 + awareness.openings.length) source goal := by
    intro turns enough
    induction turns, enough using Nat.le_induction with
    | base => rfl
    | succ turns enough hypothesis => rw [(searchWithin_succ enough).1, hypothesis]
  exact (same turns enough).trans (same _ awareness.openings_within_turns).symm

theorem finished_of_search {final : Search.State α}
    (searched : awareness.search source goal = .ok final) :
    final.queue.size = 0 ∨ ∃ region ∈ final.settled, goal.map Int.ofNat = some region :=
  (searchWithin_succ awareness.openings_within_turns).2 final searched

/-! ## Going back -/

/-- Labels are those of a search that came to its end, and its goal is a region of the network. -/
theorem exists_search {labels : Labels α}
    (found : awareness.distances source (goal.map Int.ofNat) = .ok labels) :
    (∀ index, goal = some index → index < awareness.network.size) ∧
      ∃ final, awareness.search source goal = .ok final ∧ labels = final.labels := by
  have inside : source < awareness.network.size := by
    rcases bind_eq_ok.mp found with ⟨start, isStart, -⟩
    have isSource := Network.indexOf_eq_ok_iff.mp isStart
    exact Int.ofNat.inj isSource.1 ▸ isSource.2
  have goalInside : ∀ index, goal = some index → index < awareness.network.size := by
    rcases bind_eq_ok.mp found with ⟨start, -, rest⟩
    rcases bind_eq_ok.mp rest with ⟨stop, isGoal, -⟩
    rintro index rfl
    rw [Option.map_some, Option.mapM_some] at isGoal
    cases isIndex : awareness.network.indexOf (Int.ofNat index) with
    | error fault =>
      rw [isIndex] at isGoal
      cases isGoal
    | ok other =>
      have isStop := Network.indexOf_eq_ok_iff.mp isIndex
      exact Int.ofNat.inj isStop.1 ▸ isStop.2
  refine ⟨goalInside, ?_⟩
  rw [distances_of_lt inside goalInside] at found
  cases searched : awareness.search source goal with
  | error fault =>
    rw [searched] at found
    cases found
  | ok final =>
    rw [searched] at found
    cases found
    exact ⟨final, rfl, rfl⟩

/-- A way back from a label to the start is shorter than the list of regions. -/
theorem exists_back {labels : Labels α}
    (found : awareness.distances source (goal.map Int.ofNat) = .ok labels) {region : Int}
    (labelled : region ∈ labels.keys) :
    ∃ back, labels.LeadBack (region :: back) ∧ (region :: back).getLast? = some ↑source ∧
      (region :: back).Nodup ∧ back.length + 1 ≤ awareness.network.size := by
  rcases exists_search found with ⟨goalInside, final, searched, rfl⟩
  rcases awareness.exists_course source (goal.map Int.ofNat) with ⟨domain, closed, course, -⟩
  rcases Table.mem_keys_iff.mp labelled with ⟨label, isLabel⟩
  have listed : ∀ region, awareness.network.Holds region →
      region ∈ (List.range awareness.network.size).map Int.ofNat := by
    rintro region ⟨lower, upper⟩
    rcases Int.eq_ofNat_of_zero_le lower with ⟨index, rfl⟩
    exact List.mem_map_of_mem (List.mem_range.mpr (Int.ofNat_lt.mp upper))
  have isGoal : ∀ region, goal.map Int.ofNat = some region →
      region ∈ (List.range awareness.network.size).map Int.ofNat := by
    intro region sought
    rcases Option.map_eq_some_iff.mp sought with ⟨index, isIndex, rfl⟩
    exact List.mem_map_of_mem (List.mem_range.mpr (goalInside index isIndex))
  have way := course.wayBack awareness.follows_openArcs closed searched
    (finished_of_search searched) isGoal
    (fun settled region found opened => listed region (openArcs_eq_ok opened).1) isLabel
  rwa [List.length_map, List.length_range] at way

/-! ## The result -/

/-- What holds of every search from a region. -/
structure Ends (awareness : Awareness α) (source : Nat) (goal : Option Nat) : Prop where
  /-- Whenever the search is looked at, no region has been settled twice. -/
  once : ∀ turns state, awareness.searchWithin turns source goal = .ok state → state.settled.Nodup
  few : ∀ turns, awareness.popsWithin turns source goal ≤ 1 + awareness.openings.length
  /-- More turns than these make no difference. -/
  stops : ∀ turns, 1 + awareness.openings.length ≤ turns →
    awareness.searchWithin turns source goal = awareness.search source goal
  /-- Nothing waits at the end, or the goal is settled. -/
  finished : ∀ final, awareness.search source goal = .ok final →
    final.queue.size = 0 ∨ ∃ region ∈ final.settled, goal.map Int.ofNat = some region
  /-- The search comes to labels if every connection has a weight. -/
  succeeds : awareness.Weighed → source < awareness.network.size →
    (∀ index, goal = some index → index < awareness.network.size) →
      ∃ labels, awareness.distances source (goal.map Int.ofNat) = .ok labels
  /-- Going back from a label ends at the start, in fewer steps than there are regions. -/
  leads : ∀ labels, awareness.distances source (goal.map Int.ofNat) = .ok labels →
    ∀ region ∈ labels.keys, ∃ back, labels.LeadBack (region :: back) ∧
      (region :: back).getLast? = some ↑source ∧ (region :: back).Nodup ∧
      back.length + 1 ≤ awareness.network.size ∧
      ∀ steps, back.length ≤ steps → labels.backtrack steps region [] = (region :: back).reverse

/-- Every search ends, from any region and with any goal, whatever the weights are. -/
theorem search_ends (awareness : Awareness α) (source : Nat) (goal : Option Nat) :
    awareness.Ends source goal := by
  refine ⟨fun turns state => nodup_of_searchWithin, fun turns => awareness.popsWithin_le turns _ _,
    fun turns => searchWithin_eq, fun final => finished_of_search, ?_, ?_⟩
  · intro weighed inside goalInside
    rcases weighed.search_reaches inside goal with ⟨final, searched, -⟩
    exact ⟨final.labels, distances_of_search inside goalInside searched⟩
  · intro labels found region labelled
    rcases exists_back found labelled with ⟨back, leads, last, distinct, short⟩
    refine ⟨back, leads, last, distinct, short, fun steps enough => ?_⟩
    rw [leads.backtrack_eq steps region back [] rfl enough, List.append_nil]

/-- Three regions in a ring, some of them joined at an infinite cost.  Between no bounds that can be
compared, an infinite cost becomes an undefined one. -/
def unrulyNetwork : Network Float :=
  (Network.ofPlaces
    (["A", "B", "C"].map fun id => ⟨id, "unknown", ⟨0.0, 0.0⟩, 1.0, 0⟩)
    ([(0, some 1, 1.0 / 0.0), (0, some 1, 1.0), (0, some 2, 1.0 / 0.0), (1, some 2, 1.0),
      (2, none, 1.0), (2, some 0, 1.0)].map fun (source, destination, cost) =>
        (source, ⟨destination, some cost, ⟨0.0, 0.0⟩⟩))).toOption.getD default

def unruly : Awareness Float where
  network := unrulyNetwork
  complete := true
  discovered := []
  tariff := ⟨unrulyNetwork.connections.map fun connection => connection.baseCost, .real 0.0,
    .real (0.0 / 0.0), ∅⟩

theorem search_ends_unruly :
    unruly.Weighed ∧ unruly.Ends 0 (some 2) ∧
      ∃ labels, unruly.distances 0 (some 2) = .ok labels := by
  have formed : unrulyNetwork.WellFormed :=
    Network.wellFormed_of_ofPlaces (eq_ok_of_isOk (by decide +kernel) default) (by decide +kernel)
  have weighed : unruly.Weighed := weighed_of_numeric formed rfl ⟨rfl, rfl, by decide +kernel⟩
  have ends := search_ends unruly 0 (some 2)
  refine ⟨weighed, ends, ends.succeeds weighed (by decide +kernel) ?_⟩
  rintro index ⟨⟩
  decide +kernel

/-- What is found for the second region is undefined, and cannot be compared even with itself. -/
example : ((unruly.distances 0 none).toOption.bind fun labels => labels.find? 1).any
    (fun label => !decide (label.cost ≤ label.cost)) = true := by
  decide +kernel

end Awareness

end Egress
