import Mathlib.Algebra.BigOperators.Group.List.Basic
import Mathlib.Algebra.Order.BigOperators.GroupWithZero.List
import Egress.Proofs.Distances
import Egress.Proofs.Journey
import Egress.Proofs.Reach

/-!
# One awareness against another

Two agents may know one network in different ways.  If the first one knows all that the second one
knows, and no connection weighs more for it, then it reaches whatever the other one reaches, at no
higher cost, and has a route wherever the other one has.

This is so if both know the same and judge the doors differently: if each factor that the first one
has is no more than the factor of the second under the same name, then so is each effective weight.

An exact weight is the base cost times the factors, held between the bounds; the order of factors
does not matter.  A base cost below zero would turn the order of products round, but the lower bound
is positive, so both weights then are the lower bound.
-/

namespace Egress

/-! ## Products -/

namespace Table

variable {κ : Type} [DecidableEq κ]

/-- The values of a table are found under its keys. -/
theorem values_eq_map_keys {β : Type} (table : Table κ β) (fallback : β) :
    table.values = table.keys.map fun key => (table.find? key).getD fallback := by
  unfold values keys
  rw [List.map_map]
  refine List.map_congr_left fun entry member => ?_
  have found : table.find? entry.1 = some entry.2 := find?_eq_some_iff.mpr member
  change entry.2 = (table.find? entry.1).getD fallback
  rw [found]
  rfl

/-- Two tables have the same keys, and under each the first has a positive value and the second one
that is no less. -/
def Below (first second : Table κ Rat) : Prop :=
  ∀ key, (first.find? key = none ∧ second.find? key = none) ∨
    ∃ low high, first.find? key = some low ∧ second.find? key = some high ∧ 0 < low ∧ low ≤ high

variable {first second : Table κ Rat}

theorem Below.mem_keys_iff (below : first.Below second) (key : κ) :
    key ∈ first.keys ↔ key ∈ second.keys := by
  rw [Table.mem_keys_iff, Table.mem_keys_iff]
  rcases below key with ⟨absent, also⟩ | ⟨low, high, found, also, -⟩
  · rw [absent, also]
  · rw [found, also]
    exact ⟨fun _ => ⟨high, rfl⟩, fun _ => ⟨low, rfl⟩⟩

theorem Below.prod_le (below : first.Below second) :
    0 ≤ first.values.prod ∧ first.values.prod ≤ second.values.prod := by
  have sameKeys : second.keys.Perm first.keys :=
    (List.perm_ext_iff_of_nodup second.keys_nodup first.keys_nodup).mpr fun key =>
      (below.mem_keys_iff key).symm
  have each : ∀ key, 0 ≤ (first.find? key).getD 1 ∧
      (first.find? key).getD 1 ≤ (second.find? key).getD 1 := by
    intro key
    rcases below key with ⟨absent, also⟩ | ⟨low, high, found, also, positive, less⟩
    · rw [absent, also]
      exact ⟨zero_le_one, le_rfl⟩
    · rw [found, also]
      exact ⟨le_of_lt positive, less⟩
  rw [first.values_eq_map_keys 1, second.values_eq_map_keys 1, (sameKeys.map _).prod_eq]
  constructor
  · exact List.prod_nonneg fun value member => by
      rcases List.mem_map.mp member with ⟨key, -, rfl⟩
      exact (each key).1
  · exact List.prod_map_le_prod_map₀ _ _ (fun key _ => (each key).1) fun key _ => (each key).2

end Table

namespace Tariff

variable {tariff first second : Tariff Rat} {low high : Rat} {index : Nat}

theorem product_eq (tariff : Tariff Rat) (index : Nat) (base : Rat) :
    tariff.product index base = base * (tariff.of index).values.prod := by
  unfold product
  generalize (tariff.of index).values = factors
  induction factors generalizing base with
  | nil => exact (mul_one base).symm
  | cons factor rest hypothesis =>
    rw [List.foldl_cons, hypothesis, List.prod_cons]
    exact mul_assoc base factor _

theorem clamp_eq {lowest highest : Value Rat} (isLow : lowest.number = .ok low)
    (isHigh : highest.number = .ok high) (weight : Rat) :
    clamp lowest highest weight =
      .ok (if high < weight then highest else if weight < low then lowest else .real weight) := by
  have isFinite : ¬ (!Scalar.isFinite weight) = true := Bool.false_ne_true
  unfold clamp
  rw [if_neg isFinite, Value.number?_of_number isHigh, Value.number?_of_number isLow]
  dsimp only
  split
  · rfl
  · rfl

/-- An exact weight is the product of the base cost and the factors, held between the bounds. -/
theorem weight_eq_clamped (isLow : tariff.lowest.number = .ok low)
    (isHigh : tariff.highest.number = .ok high) (ordered : low ≤ high) {base : Rat}
    (isBase : tariff.baseCosts[index]? = some (some base)) :
    tariff.weight index = .ok (max low (min high (base * (tariff.of index).values.prod))) := by
  rw [weight_of_base isBase, clamp_eq isLow isHigh, ← product_eq]
  generalize tariff.product index base = product
  change Value.number (if high < product then tariff.highest
    else if product < low then tariff.lowest else .real product) = _
  by_cases above : high < product
  · rw [if_pos above, min_eq_left (le_of_lt above), max_eq_right ordered]
    exact isHigh
  · rw [if_neg above, min_eq_right (not_lt.mp above)]
    by_cases below : product < low
    · rw [if_pos below, max_eq_left (le_of_lt below)]
      exact isLow
    · rw [if_neg below, max_eq_right (not_lt.mp below)]
      rfl

/-- Factors that are lower one by one make no higher product between bounds above zero.  Where the
base cost is below zero, so are both products. -/
theorem clamped_le_clamped {factors others : Table String Rat} (below : factors.Below others)
    (positive : 0 < low) (base : Rat) :
    max low (min high (base * factors.values.prod)) ≤
      max low (min high (base * others.values.prod)) := by
  rcases below.prod_le with ⟨nonneg, ordered⟩
  rcases le_or_gt 0 base with upward | downward
  · exact max_le_max le_rfl (min_le_min le_rfl (mul_le_mul_of_nonneg_left ordered upward))
  · have negative : base * factors.values.prod ≤ 0 :=
      mul_nonpos_of_nonpos_of_nonneg (le_of_lt downward) nonneg
    rw [max_eq_left ((min_le_right _ _).trans (negative.trans (le_of_lt positive)))]
    exact le_max_left _ _

/-- Lower factors make no higher weight. -/
theorem weight_le_weight (bounded : first.Bounded low high)
    (sameCosts : second.baseCosts = first.baseCosts)
    (sameLowest : second.lowest = first.lowest) (sameHighest : second.highest = first.highest)
    (below : (first.of index).Below (second.of index))
    (inside : index < first.baseCosts.length) :
    ∃ less more, first.weight index = .ok less ∧ second.weight index = .ok more ∧ less ≤ more := by
  have isBased := List.getElem?_eq_getElem inside
  rcases Option.isSome_iff_exists.mp (bounded.based _ (List.getElem_mem inside)) with ⟨base, isBase⟩
  rw [isBase] at isBased
  have less := weight_eq_clamped bounded.lowest bounded.highest bounded.ordered isBased
  have more : second.weight index = .ok _ :=
    weight_eq_clamped (sameLowest ▸ bounded.lowest) (sameHighest ▸ bounded.highest)
      bounded.ordered (sameCosts ▸ isBased)
  exact ⟨_, _, less, more, clamped_le_clamped below bounded.positive base⟩

end Tariff

/-! ## Least costs -/

namespace Awareness

variable {first second : Awareness Rat}

/-- Of two agents in one network the first knows all that the second knows, and no connection weighs
more for it. -/
structure Surpasses (first second : Awareness Rat) : Prop where
  network : second.network = first.network
  knows : ∀ region, first.network.Holds region → second.Knows region → first.Knows region
  lighter : ∀ connection ∈ first.network.connections,
    first.weightOf connection ≤ second.weightOf connection

/-- What an agent knows of the first two rooms of the row, with a factor on the way between
them. -/
def slowInRow : Awareness Rat :=
  { inRow false [0, 1] with
    tariff := { (inRow false [0, 1]).tariff with
      factors := (∅ : Table Nat (Table String Rat)).insert 1
        ((∅ : Table String Rat).insert "smoke" 2) } }

namespace Surpasses

variable (surpasses : first.Surpasses second)

include surpasses

theorem walk (formed : first.network.WellFormed) {start region : Int}
    {walk : List (Connection Rat)}
    (isWalk : second.network.Walk second.Knows start walk region) :
    first.network.Walk first.Knows start walk region := by
  rw [surpasses.network] at isWalk
  exact isWalk.mono formed surpasses.knows

/-- Every region has a label with the first agent if it has one with the second, and at no higher
cost.  The two searches may have settled the regions in different orders, but both costs are least
totals. -/
theorem distances_le (weighed : first.Weighed) (also : second.Weighed)
    (laws : LawfulCosts first.Weights) (lawsAlso : LawfulCosts second.Weights) {start : Nat}
    (inside : start < first.network.size) :
    ∃ near far, first.distances start none = .ok near ∧ second.distances start none = .ok far ∧
      ∀ region label, far.find? region = some label →
        ∃ other, near.find? region = some other ∧ other.cost ≤ label.cost := by
  rcases weighed.distances_outcome laws inside with ⟨near, isNear, nearOutcome⟩
  rcases also.distances_outcome lawsAlso (surpasses.network.symm ▸ inside) with
    ⟨far, isFar, farOutcome⟩
  refine ⟨near.labels, far.labels, isNear, isFar, fun region label found => ?_⟩
  rcases walk_of_label farOutcome found with ⟨walk, -, isWalk, summed, -⟩
  have onward := surpasses.walk weighed.formed isWalk
  rcases weighed.label_of_walk nearOutcome (Or.inl rfl) onward with
    ⟨other, total, isOther, isTotal, lower⟩
  have farSum := Except.ok.inj (summed.symm.trans (also.total_eq isWalk.mem_connections))
  have nearSum := Except.ok.inj (isTotal.symm.trans (weighed.total_eq onward.mem_connections))
  refine ⟨other, isOther, ?_⟩
  calc other.cost ≤ total := lower
    _ = Network.cost first.weightOf walk := nearSum
    _ ≤ Network.cost second.weightOf walk := List.sum_le_sum fun connection member =>
        surpasses.lighter connection (onward.mem_connections connection member)
    _ = label.cost := farSum.symm

/-- What is out of reach of the first agent is out of reach of the second. -/
theorem outOfReach (formed : first.network.WellFormed) {start goal : Int}
    (inside : first.network.Holds goal) (outOfReach : first.OutOfReach start goal) :
    second.OutOfReach start goal := by
  refine ⟨outOfReach.1, outOfReach.2.imp ?_ ?_⟩
  · exact fun unknown isKnown => unknown (surpasses.knows goal inside isKnown)
  · rintro noWalk ⟨walk, isWalk⟩
    exact noWalk ⟨walk, surpasses.walk formed isWalk⟩

/-- Where the second agent has a route, the first one has one. -/
theorem exists_route (weighed : first.Weighed) (also : second.Weighed)
    (lawsAlso : LawfulCosts second.Weights) {start goal : Int} {route : List Int}
    (found : second.route start goal = .ok route) :
    ∃ other, first.route start goal = .ok other := by
  rcases bind_eq_ok.mp found with ⟨here, isStart, rest⟩
  rcases bind_eq_ok.mp rest with ⟨there, isGoal, -⟩
  rcases Network.indexOf_eq_ok_iff.mp isStart with ⟨rfl, startInside⟩
  rcases Network.indexOf_eq_ok_iff.mp isGoal with ⟨rfl, goalInside⟩
  have hereInside : here < first.network.size := surpasses.network ▸ startInside
  have thereInside : there < first.network.size := surpasses.network ▸ goalInside
  by_cases same : here = there
  · subst same
    exact ⟨_, route_self hereInside⟩
  · rcases weighed.route_cases hereInside thereInside same with
      ⟨one, next, others, isRoute, -⟩ | ⟨-, outOfReach⟩
    · exact ⟨_, isRoute⟩
    · have refused := also.route_of_outOfReach lawsAlso startInside goalInside
        (surpasses.outOfReach weighed.formed
          ⟨Int.natCast_nonneg _, Int.ofNat_lt.mpr thereInside⟩ outOfReach)
      cases refused.symm.trans found

end Surpasses

/-- Whoever knows more of a network and weighs nothing heavier reaches every region at no higher
cost, and has a route wherever the other one has. -/
theorem Surpasses.reaches_no_dearer (surpasses : first.Surpasses second)
    (weighed : first.Weighed) (also : second.Weighed)
    (positive : ∀ weight, first.Weights weight → 0 < weight)
    (positiveAlso : ∀ weight, second.Weights weight → 0 < weight) :
    (∀ start : Nat, start < first.network.size → ∃ near far,
      first.distances start none = .ok near ∧ second.distances start none = .ok far ∧
      ∀ region label, far.find? region = some label →
        ∃ other, near.find? region = some other ∧ other.cost ≤ label.cost) ∧
    ∀ (start goal : Int) route, second.route start goal = .ok route →
      ∃ other, first.route start goal = .ok other := by
  have laws : LawfulCosts first.Weights :=
    .of_rat fun weight isWeight => le_of_lt (positive weight isWeight)
  have lawsAlso : LawfulCosts second.Weights :=
    .of_rat fun weight isWeight => le_of_lt (positiveAlso weight isWeight)
  constructor
  · intro start inside
    exact surpasses.distances_le weighed also laws lawsAlso inside
  · intro start goal route found
    exact surpasses.exists_route weighed also lawsAlso found

/-- In the row, an agent that knows everything is compared with one that does not know the last room
and has a factor on a door. -/
theorem reaches_no_dearer_in_row :
    (inRow true []).Surpasses slowInRow ∧ (inRow true []).Weighed ∧ slowInRow.Weighed ∧
    (∀ weight, (inRow true []).Weights weight → 0 < weight) ∧
    (∀ weight, slowInRow.Weights weight → 0 < weight) ∧
    (∀ start : Nat, start < (inRow true []).network.size → ∃ near far,
      (inRow true []).distances start none = .ok near ∧ slowInRow.distances start none = .ok far ∧
      ∀ region label, far.find? region = some label →
        ∃ other, near.find? region = some other ∧ other.cost ≤ label.cost) ∧
    ∀ (start goal : Int) route, slowInRow.route start goal = .ok route →
      ∃ other, (inRow true []).route start goal = .ok other := by
  have sound := inRow_sound true []
  have grows : Grows (inRow false [0, 1]) slowInRow :=
    ⟨rfl, rfl, fun _ isKnown => isKnown, rfl, rfl, rfl⟩
  have also : slowInRow.Sound := grows.sound (inRow_sound false [0, 1])
  have surpasses : (inRow true []).Surpasses slowInRow :=
    ⟨rfl, fun _ _ _ => Or.inl rfl, by decide +kernel⟩
  exact ⟨surpasses, sound.weighed, also.weighed, sound.weights_pos, also.weights_pos,
    surpasses.reaches_no_dearer sound.weighed also.weighed sound.weights_pos also.weights_pos⟩

/-- Two agents know the same of one network, and no factor of the first is higher than that of the
second. -/
structure Cheaper (first second : Awareness Rat) : Prop where
  network : second.network = first.network
  complete : second.complete = first.complete
  discovered : second.discovered = first.discovered
  baseCosts : second.tariff.baseCosts = first.tariff.baseCosts
  lowest : second.tariff.lowest = first.tariff.lowest
  highest : second.tariff.highest = first.tariff.highest
  factors : ∀ index, (first.tariff.of index).Below (second.tariff.of index)

namespace Cheaper

theorem knows_eq (cheaper : first.Cheaper second) : second.Knows = first.Knows := by
  unfold Knows
  rw [cheaper.complete, cheaper.discovered]

theorem sound (cheaper : first.Cheaper second) (sound : first.Sound) : second.Sound :=
  Grows.sound ⟨cheaper.network, cheaper.complete,
    fun _ isKnown => cheaper.knows_eq ▸ isKnown, cheaper.baseCosts, cheaper.lowest,
    cheaper.highest⟩ sound

/-- No connection weighs more for the first agent. -/
theorem weight_le (cheaper : first.Cheaper second) (sound : first.Sound)
    {connection : Connection Rat} (member : connection ∈ first.network.connections) :
    ∃ less more, first.weight connection.index = .ok less ∧
      second.weight connection.index = .ok more ∧ less ≤ more := by
  rcases sound.bounded with ⟨low, high, bounded⟩
  refine Tariff.weight_le_weight bounded cheaper.baseCosts cheaper.lowest cheaper.highest
    (cheaper.factors connection.index) ?_
  rw [sound.based, List.length_map]
  exact sound.formed.index_lt_of_mem member

/-- Both agents reach the same regions, and no region costs the first one more. -/
theorem distances_le (cheaper : first.Cheaper second) (sound : first.Sound) {start : Nat}
    (inside : start < first.network.size) :
    ∃ near far, first.distances start none = .ok near ∧ second.distances start none = .ok far ∧
      (∀ region, region ∈ near.keys ↔ region ∈ far.keys) ∧
      ∀ region label other, near.find? region = some label → far.find? region = some other →
        label.cost ≤ other.cost := by
  have also := cheaper.sound sound
  have lighter : ∀ connection ∈ first.network.connections,
      first.weightOf connection ≤ second.weightOf connection := by
    intro connection member
    rcases cheaper.weight_le sound member with ⟨less, more, isLess, isMore, ordered⟩
    unfold weightOf
    rw [isLess, isMore]
    exact ordered
  have surpasses : first.Surpasses second :=
    ⟨cheaper.network, fun _ _ isKnown => cheaper.knows_eq ▸ isKnown, lighter⟩
  rcases surpasses.distances_le sound.weighed also.weighed sound.laws also.laws inside with
    ⟨near, far, isNear, isFar, least⟩
  rcases sound.distances_outcome sound.laws inside with ⟨nearState, sameNear, nearOutcome⟩
  rcases also.distances_outcome also.laws (cheaper.network ▸ inside) with
    ⟨farState, sameFar, farOutcome⟩
  cases isNear.symm.trans sameNear
  cases isFar.symm.trans sameFar
  refine ⟨_, _, isNear, isFar, fun region => ?_, fun region label other isLabel isOther => ?_⟩
  · rw [sound.mem_keys_iff nearOutcome, also.mem_keys_iff farOutcome, cheaper.network,
      cheaper.knows_eq]
  · rcases least region other isOther with ⟨lower, isLower, ordered⟩
    cases isLabel.symm.trans isLower
    exact ordered

end Cheaper

end Awareness

end Egress
