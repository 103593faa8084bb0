import Mathlib.Data.Int.Interval
import Egress.Proofs.Rectangle
import Egress.Proofs.Search.WayBack

/-!
# Least costs

A search over what an awareness knows ends without a fault, whatever the awareness knows and
whatever factors its tariff holds.  Without a goal it labels exactly the regions to which a walk
leads that leaves only known regions; each label is the least total of these walks, and the way back
along the labels is a walk with this total.  With a goal the same holds of the goal.
-/

namespace Egress.Awareness

variable {α : Type} [Scalar α] {awareness : Awareness α} {start : Nat}

/-- A search stays among the regions of the network, opens the arcs of each, and has enough
turns. -/
theorem Weighed.search_opens (weighed : awareness.Weighed)
    (inside : start < awareness.network.size) :
    ∃ domain : Finset Int, (· ∈ domain) = awareness.network.Holds ∧
      (∀ region ∈ domain, ∀ arc ∈ awareness.arcsFrom region, arc.1 ∈ domain) ∧
      (∀ settled, ∀ region ∈ domain, awareness.openArcs settled region =
        .ok (Search.ahead awareness.arcsFrom settled region)) ∧
      (start : Int) ∈ domain ∧
      Search.pending awareness.arcsFrom domain (Search.start start) <
        awareness.network.connections.length + 2 := by
  refine ⟨Finset.Ico (0 : Int) awareness.network.size, ?_, ?_, ?_, ?_, ?_⟩
  · funext region
    exact propext Finset.mem_Ico
  · intro region _ arc isArc
    exact Finset.mem_Ico.mpr (weighed.inside_of_mem_arcsFrom region arc isArc)
  · intro settled region member
    exact weighed.openArcs_eq settled (Finset.mem_Ico.mp member)
  · exact Finset.mem_Ico.mpr ⟨by omega, by omega⟩
  · have few := awareness.sum_length_arcsFrom (Finset.Ico (0 : Int) awareness.network.size)
    rw [Search.pending_begin]
    omega

/-- The search from a region of the network. -/
theorem Weighed.search_outcome (weighed : awareness.Weighed) (laws : LawfulCosts awareness.Weights)
    (inside : start < awareness.network.size) (goal : Option Nat) :
    ∃ final, awareness.search start goal = .ok final ∧
      Search.Outcome awareness.arcsFrom awareness.Weights awareness.network.Holds start
        (goal.map Int.ofNat) final := by
  rcases weighed.search_opens inside with
    ⟨domain, isDomain, closed, opened, isStart, enough⟩
  rw [← isDomain]
  exact Search.run_outcome laws weights_of_mem_arcsFrom closed opened _ _ (.begin laws isStart)
    enough

/-- A label is the least total of the walks to its region, and it is the total of the walk that
leads back. -/
def Shortest (awareness : Awareness α) (start : Int) (labels : Labels α) (region : Int)
    (cost : α) : Prop :=
  (∀ walk, awareness.network.Walk awareness.Knows start walk region →
    ∃ total, awareness.total walk = .ok total ∧ cost ≤ total) ∧
  ∃ walk, awareness.network.Walk awareness.Knows start walk region ∧
    awareness.total walk = .ok cost ∧ labels.LeadBack (Network.passed start walk).reverse

/-- The walk back from a labelled region, which passes no region twice. -/
theorem walk_of_label {goal : Option Int} {domain : Int → Prop} {final : Search.State α}
    (outcome : Search.Outcome awareness.arcsFrom awareness.Weights domain start goal final)
    {region : Int} {label : Label α} (found : final.labels.find? region = some label) :
    ∃ walk back, awareness.network.Walk awareness.Knows start walk region ∧
      awareness.total walk = .ok label.cost ∧
      (Network.passed start walk).reverse = region :: back ∧
      final.labels.LeadBack (region :: back) ∧ (region :: back).Nodup := by
  rcases outcome.rooted.wayBack region label found with ⟨back, leads, distinct, -⟩
  have trail := outcome.summed.trail_of_leadBack outcome.rooted leads region back label rfl found
  rcases walk_of_trail trail region back rfl with ⟨walk, isWalk, summed, passes⟩
  exact ⟨walk, back, isWalk, summed, passes, leads, distinct⟩

/-- A region for which a search has found the least cost is labelled if a walk leads to it. -/
theorem Weighed.label_of_walk (weighed : awareness.Weighed) {goal : Option Int}
    {domain : Int → Prop} {final : Search.State α}
    (outcome : Search.Outcome awareness.arcsFrom awareness.Weights domain start goal final)
    {region : Int} (sought : goal = none ∨ goal = some region) {walk : List (Connection α)}
    (isWalk : awareness.network.Walk awareness.Knows start walk region) :
    ∃ label total, final.labels.find? region = some label ∧ awareness.total walk = .ok total ∧
      label.cost ≤ total := by
  rcases weighed.trail_of_walk isWalk with ⟨back, total, trail, summed⟩
  rcases outcome.least region sought back total trail with ⟨label, found, lower⟩
  exact ⟨label, total, found, summed, lower⟩

theorem Weighed.shortest_of_label (weighed : awareness.Weighed) {goal : Option Int}
    {domain : Int → Prop} {final : Search.State α}
    (outcome : Search.Outcome awareness.arcsFrom awareness.Weights domain start goal final)
    {region : Int} (sought : goal = none ∨ goal = some region) {label : Label α}
    (found : final.labels.find? region = some label) :
    awareness.Shortest start final.labels region label.cost := by
  constructor
  · intro walk isWalk
    rcases weighed.label_of_walk outcome sought isWalk with
      ⟨other, total, isOther, summed, lower⟩
    cases isOther.symm.trans found
    exact ⟨total, summed, lower⟩
  · rcases walk_of_label outcome found with ⟨walk, back, isWalk, summed, passes, leads, -⟩
    exact ⟨walk, isWalk, summed, passes ▸ leads⟩

/-- The distances are the labels of a search. -/
theorem distances_of_lt {goal : Option Nat} (inside : start < awareness.network.size)
    (goalInside : ∀ index, goal = some index → index < awareness.network.size) :
    awareness.distances start (goal.map Int.ofNat) =
      (awareness.search start goal).map Search.State.labels := by
  cases goal with
  | none =>
    simp only [distances, Network.indexOf_of_lt inside, bind, Except.bind, Option.map_none,
      Option.mapM_none, pure, Except.pure, Except.map]
  | some index =>
    simp only [distances, Network.indexOf_of_lt inside,
      Network.indexOf_of_lt (goalInside index rfl), bind, Except.bind, Option.map_some,
      Option.mapM_some, Int.ofNat_eq_natCast, pure, Except.pure, Functor.map, Except.map]

theorem distances_of_search {goal : Option Nat} {final : Search.State α}
    (inside : start < awareness.network.size)
    (goalInside : ∀ index, goal = some index → index < awareness.network.size)
    (searched : awareness.search start goal = .ok final) :
    awareness.distances start (goal.map Int.ofNat) = .ok final.labels := by
  rw [distances_of_lt inside goalInside, searched]
  rfl

theorem Weighed.distances_outcome (weighed : awareness.Weighed)
    (laws : LawfulCosts awareness.Weights)
    (inside : start < awareness.network.size) :
    ∃ final, awareness.distances start none = .ok final.labels ∧
      Search.Outcome awareness.arcsFrom awareness.Weights awareness.network.Holds start none
        final := by
  rcases weighed.search_outcome laws inside none with ⟨final, searched, outcome⟩
  exact ⟨final, distances_of_search inside (by simp) searched, outcome⟩

/-- A full search labels the regions to which a walk leads that leaves only known regions. -/
theorem Weighed.mem_keys_iff (weighed : awareness.Weighed) {domain : Int → Prop}
    {final : Search.State α}
    (outcome : Search.Outcome awareness.arcsFrom awareness.Weights domain start none final)
    (region : Int) :
    region ∈ final.labels.keys ↔
      ∃ walk, awareness.network.Walk awareness.Knows start walk region := by
  constructor
  · intro isKey
    cases found : final.labels.find? region with
    | none => exact absurd isKey ((final.labels.find?_eq_none_iff region).mp found)
    | some label =>
      rcases walk_of_label outcome found with ⟨walk, back, isWalk, -⟩
      exact ⟨walk, isWalk⟩
  · rintro ⟨walk, isWalk⟩
    rcases weighed.label_of_walk outcome (Or.inl rfl) isWalk with ⟨label, total, found, -⟩
    by_contra absent
    rw [(final.labels.find?_eq_none_iff region).mpr absent] at found
    cases found

/-! ## Sound awarenesses -/

theorem Sound.distances_outcome (sound : awareness.Sound) (laws : LawfulCosts awareness.Weights)
    (inside : start < awareness.network.size) :
    ∃ final, awareness.distances start none = .ok final.labels ∧
      Search.Outcome awareness.arcsFrom awareness.Weights awareness.network.Holds start none
        final :=
  sound.weighed.distances_outcome laws inside

theorem Sound.mem_keys_iff (sound : awareness.Sound) {domain : Int → Prop} {final : Search.State α}
    (outcome : Search.Outcome awareness.arcsFrom awareness.Weights domain start none final)
    (region : Int) :
    region ∈ final.labels.keys ↔
      ∃ walk, awareness.network.Walk awareness.Knows start walk region :=
  sound.weighed.mem_keys_iff outcome region

theorem Sound.shortest_of_label (sound : awareness.Sound) {goal : Option Int}
    {domain : Int → Prop} {final : Search.State α}
    (outcome : Search.Outcome awareness.arcsFrom awareness.Weights domain start goal final)
    {region : Int} (sought : goal = none ∨ goal = some region) {label : Label α}
    (found : final.labels.find? region = some label) :
    awareness.Shortest start final.labels region label.cost :=
  sound.weighed.shortest_of_label outcome sought found

/-- Distances without a goal are the least totals of all walks that leave only known regions. -/
theorem distances_least (sound : awareness.Sound) (laws : LawfulCosts awareness.Weights)
    (inside : start < awareness.network.size) :
    ∃ labels, awareness.distances start none = .ok labels ∧
      (∀ region, region ∈ labels.keys ↔
        ∃ walk, awareness.network.Walk awareness.Knows start walk region) ∧
      ∀ region label, labels.find? region = some label →
        awareness.Shortest start labels region label.cost := by
  rcases sound.distances_outcome laws inside with ⟨final, searched, outcome⟩
  refine ⟨final.labels, searched, sound.mem_keys_iff outcome, ?_⟩
  intro region label found
  exact sound.shortest_of_label outcome (Or.inl rfl) found

/-- In the row, an agent that does not know the last room finds the least totals from the middle. -/
theorem distances_least_in_row :
    (inRow false [0, 1]).Sound ∧ LawfulCosts (inRow false [0, 1]).Weights ∧
    1 < (inRow false [0, 1]).network.size ∧
    ∃ labels, (inRow false [0, 1]).distances 1 none = .ok labels ∧
      (∀ region, region ∈ labels.keys ↔
        ∃ walk, (inRow false [0, 1]).network.Walk (inRow false [0, 1]).Knows 1 walk region) ∧
      ∀ region label, labels.find? region = some label →
        (inRow false [0, 1]).Shortest 1 labels region label.cost := by
  have sound := inRow_sound false [0, 1]
  have inside : 1 < (inRow false [0, 1]).network.size := by decide +kernel
  exact ⟨sound, sound.laws, inside, distances_least sound sound.laws inside⟩

end Egress.Awareness
