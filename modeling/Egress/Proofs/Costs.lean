import Mathlib.Algebra.Order.Ring.Rat
import Mathlib.Tactic.Linarith
import Egress.Proofs.Traversal
import Egress.Tariff

/-!
# Costs

A cost is a sum of weights, added up from left to right and starting from zero.  What the planner
needs of its arithmetic it needs of costs only: they can be compared, adding a weight keeps the
order of two costs, and adding a weight never makes a cost smaller.  Nothing is asked of values that
no sum comes to.

Exact rationals satisfy these laws for all weights that are not negative.  The effective weights of
a tariff lie between its bounds, whatever factors it holds, so they are positive as soon as the
lower bound is.
-/

namespace Egress

variable {α : Type} [Scalar α]

/-- Sums of weights, from left to right. -/
inductive IsCost (weights : α → Prop) : α → Prop
  | zero : IsCost weights Scalar.zero
  | add {cost weight : α} : IsCost weights cost → weights weight →
      IsCost weights (cost + weight)

/-- What is asked of the sums of some weights: they are totally ordered, and adding a weight
respects the order and never lowers a cost. -/
structure LawfulCosts (weights : α → Prop) : Prop where
  le_total : ∀ {first second : α}, IsCost weights first → IsCost weights second →
    first ≤ second ∨ second ≤ first
  le_trans : ∀ {first second third : α}, IsCost weights first → IsCost weights second →
    IsCost weights third → first ≤ second → second ≤ third → first ≤ third
  lt_iff_not_le : ∀ {first second : α}, IsCost weights first → IsCost weights second →
    (first < second ↔ ¬ second ≤ first)
  add_le_add : ∀ {first second weight : α}, IsCost weights first → IsCost weights second →
    weights weight → first ≤ second → first + weight ≤ second + weight
  le_add : ∀ {cost weight : α}, IsCost weights cost → weights weight → cost ≤ cost + weight

/-- Compared by cost, and at equal costs by rank. -/
def AtMost (first : α) (firstRank : Nat) (second : α) (secondRank : Nat) : Prop :=
  first ≤ second ∧ (second ≤ first → firstRank ≤ secondRank)

namespace LawfulCosts

variable {weights : α → Prop}

theorem le_refl (laws : LawfulCosts weights) {cost : α} (sum : IsCost weights cost) :
    cost ≤ cost :=
  (laws.le_total sum sum).elim id id

theorem le_of_not_lt (laws : LawfulCosts weights) {first second : α}
    (sumFirst : IsCost weights first) (sumSecond : IsCost weights second)
    (notLess : ¬ first < second) : second ≤ first := by
  by_contra notLe
  exact notLess ((laws.lt_iff_not_le sumFirst sumSecond).mpr notLe)

theorem le_of_lt (laws : LawfulCosts weights) {first second : α}
    (sumFirst : IsCost weights first) (sumSecond : IsCost weights second)
    (less : first < second) : first ≤ second :=
  (laws.le_total sumFirst sumSecond).resolve_right
    ((laws.lt_iff_not_le sumFirst sumSecond).mp less)

theorem lt_of_lt_of_le (laws : LawfulCosts weights) {first second third : α}
    (sumFirst : IsCost weights first) (sumSecond : IsCost weights second)
    (sumThird : IsCost weights third) (less : first < second) (smaller : second ≤ third) :
    first < third := by
  apply (laws.lt_iff_not_le sumFirst sumThird).mpr
  intro notLess
  exact (laws.lt_iff_not_le sumFirst sumSecond).mp less
    (laws.le_trans sumSecond sumThird sumFirst smaller notLess)

theorem zero_le (laws : LawfulCosts weights) {cost : α} (sum : IsCost weights cost) :
    Scalar.zero ≤ cost := by
  induction sum with
  | zero => exact laws.le_refl .zero
  | add sum weight hypothesis =>
    exact laws.le_trans .zero sum (sum.add weight) hypothesis (laws.le_add sum weight)

/-- What the test of a ranking by cost and rank refuses. -/
theorem test_eq_false_iff (laws : LawfulCosts weights) {first second : α}
    {firstRank secondRank : Nat} (sumFirst : IsCost weights first)
    (sumSecond : IsCost weights second) :
    (if second ≤ first ∧ first ≤ second then decide (secondRank < firstRank)
      else decide (second < first)) = false ↔ AtMost first firstRank second secondRank := by
  unfold AtMost
  by_cases level : second ≤ first ∧ first ≤ second
  · rw [if_pos level, decide_eq_false_iff_not, Nat.not_lt]
    exact ⟨fun rank => ⟨level.2, fun _ => rank⟩, fun both => both.2 level.1⟩
  · rw [if_neg level, decide_eq_false_iff_not]
    constructor
    · intro notLess
      have smaller := laws.le_of_not_lt sumSecond sumFirst notLess
      exact ⟨smaller, fun larger => absurd ⟨larger, smaller⟩ level⟩
    · rintro ⟨smaller, -⟩ less
      exact (laws.lt_iff_not_le sumSecond sumFirst).mp less smaller

theorem atMost_total (laws : LawfulCosts weights) {first second : α} {firstRank secondRank : Nat}
    (sumFirst : IsCost weights first) (sumSecond : IsCost weights second) :
    AtMost first firstRank second secondRank ∨ AtMost second secondRank first firstRank := by
  by_cases smaller : first ≤ second
  · by_cases larger : second ≤ first
    · rcases Nat.le_total firstRank secondRank with rank | rank
      · exact Or.inl ⟨smaller, fun _ => rank⟩
      · exact Or.inr ⟨larger, fun _ => rank⟩
    · exact Or.inl ⟨smaller, fun level => absurd level larger⟩
  · have larger := (laws.le_total sumFirst sumSecond).resolve_left smaller
    exact Or.inr ⟨larger, fun level => absurd level smaller⟩

theorem atMost_trans (laws : LawfulCosts weights) {first second third : α}
    {firstRank secondRank thirdRank : Nat} (sumFirst : IsCost weights first)
    (sumSecond : IsCost weights second) (sumThird : IsCost weights third)
    (lower : AtMost first firstRank second secondRank)
    (upper : AtMost second secondRank third thirdRank) :
    AtMost first firstRank third thirdRank := by
  refine ⟨laws.le_trans sumFirst sumSecond sumThird lower.1 upper.1, ?_⟩
  intro level
  exact Nat.le_trans (lower.2 (laws.le_trans sumSecond sumThird sumFirst upper.1 level))
    (upper.2 (laws.le_trans sumThird sumFirst sumSecond level lower.1))

/-- Exact rationals obey the laws of costs for weights that are not negative. -/
theorem of_rat {weights : Rat → Prop} (nonnegative : ∀ weight, weights weight → 0 ≤ weight) :
    LawfulCosts weights where
  le_total := fun _ _ => Rat.le_total
  le_trans := fun _ _ _ => Rat.le_trans
  lt_iff_not_le := fun _ _ => Rat.not_le.symm
  add_le_add := fun _ _ _ smaller => Rat.add_le_add_right.mpr smaller
  le_add := fun {cost weight} _ isWeight => by
    have positive := nonnegative weight isWeight
    linarith

end LawfulCosts

namespace Value

/-- A value that can be computed with can be compared with, and is the same number in both uses. -/
theorem number?_of_number {value : Value α} {number : α} (computed : value.number = .ok number) :
    value.number? = some number := by
  cases value with
  | bool flag => exact congrArg some (Except.ok.inj computed)
  | int integer =>
    simp only [Value.number] at computed
    split at computed
    · exact congrArg some (Except.ok.inj computed)
    · cases computed
  | real real => exact congrArg some (Except.ok.inj computed)
  | null | text _ | bytes _ | moment _ | list _ | mapping _ | endless => cases computed

/-- A value that cannot be computed with is no number or too large. -/
theorem number_fails {admitted : Fault α → Prop} (wrongType : admitted .wrongType)
    (tooLarge : admitted .tooLarge) (value : Value α) : FailsWith admitted value.number := by
  cases value with
  | int given =>
    change FailsWith admitted
      (if Scalar.holds α given then .ok (Scalar.ofInt given) else .error .tooLarge)
    split
    · exact .ok _
    · exact .error tooLarge
  | bool _ | real _ => exact .ok _
  | null | text _ | bytes _ | moment _ | list _ | mapping _ | endless => exact .error wrongType

end Value

namespace Tariff

/-- The bounds of a tariff and all its base costs are numbers. -/
structure Numeric (tariff : Tariff α) (low high : α) : Prop where
  lowest : tariff.lowest.number = .ok low
  highest : tariff.highest.number = .ok high
  based : ∀ base ∈ tariff.baseCosts, base.isSome = true

/-- The bounds of a tariff are numbers, the lower one positive and not above the upper one, and
every base cost is a number. -/
structure Bounded (tariff : Tariff α) (low high : α) : Prop where
  lowest : tariff.lowest.number = .ok low
  highest : tariff.highest.number = .ok high
  positive : Scalar.zero < low
  ordered : low ≤ high
  based : ∀ base ∈ tariff.baseCosts, base.isSome = true

variable {tariff : Tariff α} {low high : α}

theorem Bounded.numeric (bounded : tariff.Bounded low high) : tariff.Numeric low high :=
  ⟨bounded.lowest, bounded.highest, bounded.based⟩

/-- Holding a weight between the bounds gives a number: one of the bounds, or the weight itself if
it is finite and passes neither bound. -/
theorem clamp_number {lowest highest : Value α} (isLow : lowest.number = .ok low)
    (isHigh : highest.number = .ok high) (weight : α) :
    ∃ held value, clamp lowest highest weight = .ok held ∧ held.number = .ok value ∧
      (value = low ∨ value = high ∨
        value = weight ∧ Scalar.isFinite weight = true ∧ ¬ high < weight ∧ ¬ weight < low) := by
  have lowNumber := Value.number?_of_number isLow
  have highNumber := Value.number?_of_number isHigh
  unfold clamp
  cases finite : Scalar.isFinite weight with
  | false => exact ⟨highest, high, rfl, isHigh, Or.inr (Or.inl rfl)⟩
  | true =>
    simp only [highNumber, lowNumber, Bool.not_true, Bool.false_eq_true, if_false]
    by_cases above : high < weight
    · rw [if_pos above]
      exact ⟨highest, high, rfl, isHigh, Or.inr (Or.inl rfl)⟩
    · rw [if_neg above]
      by_cases below : weight < low
      · rw [if_pos below]
        exact ⟨lowest, low, rfl, isLow, Or.inl rfl⟩
      · rw [if_neg below]
        exact ⟨.real weight, weight, rfl, rfl, Or.inr (Or.inr ⟨rfl, trivial, above, below⟩)⟩

omit [Scalar α] in
theorem indexOf_of_lt {index : Nat} (inside : index < tariff.baseCosts.length) :
    tariff.indexOf index = .ok index := by
  unfold indexOf
  rw [if_pos ⟨by omega, by omega⟩]
  rfl

/-- A reference that has a weight is the index of a connection. -/
theorem inside_of_weight {reference : Int} {weight : α}
    (weighed : tariff.weight reference = .ok weight) :
    0 ≤ reference ∧ reference < tariff.baseCosts.length := by
  by_contra outside
  simp only [Tariff.weight, Tariff.effective, Tariff.indexOf, if_neg outside] at weighed
  cases weighed

/-- A connection without a weight is none of the tariff, or what its weight is made of is no
number. -/
theorem weight_fails {admitted : Fault α → Prop} (wrongType : admitted .wrongType)
    (tooLarge : admitted .tooLarge) {reference : Int}
    (missing : admitted (.noConnectionIndex reference)) :
    FailsWith admitted (tariff.weight reference) := by
  have indexed : FailsWith admitted (tariff.indexOf reference) := by
    unfold indexOf
    split
    · exact .ok _
    · exact .error missing
  refine FailsWith.bind (indexed.bind fun index _ => ?_) fun held _ =>
    Value.number_fails wrongType tooLarge held
  split
  · exact .error missing
  · exact .error tooLarge
  · unfold clamp
    split
    · exact .ok _
    · split
      · exact .error wrongType
      · split
        · exact .ok _
        · split
          · exact .error wrongType
          · exact .ok _

/-- The effective weight of a connection is its base cost times its factors, held between the
bounds. -/
theorem effective_of_base {index : Nat} {base : α}
    (isBase : tariff.baseCosts[index]? = some (some base)) :
    tariff.effective index =
      clamp tariff.lowest tariff.highest (tariff.product index base) := by
  have inside : index < tariff.baseCosts.length := (List.getElem?_eq_some_iff.mp isBase).1
  simp only [effective, indexOf_of_lt inside, bind, Except.bind, isBase]

theorem weight_of_base {index : Nat} {base : α}
    (isBase : tariff.baseCosts[index]? = some (some base)) :
    tariff.weight index =
      (clamp tariff.lowest tariff.highest (tariff.product index base)).bind Value.number :=
  congrArg (Except.bind · Value.number) (effective_of_base isBase)

/-- Every connection has a weight: one of the bounds, or its base cost times its factors if that
passes neither bound. -/
theorem weight_spec (numeric : tariff.Numeric low high) {index : Nat}
    (inside : index < tariff.baseCosts.length) :
    ∃ base weight, tariff.baseCosts[index]? = some (some base) ∧
      tariff.weight index = .ok weight ∧
      (weight = low ∨ weight = high ∨ weight = tariff.product index base ∧
        Scalar.isFinite weight = true ∧ ¬ high < weight ∧ ¬ weight < low) := by
  have found := List.getElem?_eq_getElem inside
  rcases Option.isSome_iff_exists.mp (numeric.based _ (List.getElem_mem inside)) with ⟨base, isBase⟩
  rw [isBase] at found
  rcases clamp_number numeric.lowest numeric.highest (tariff.product index base) with
    ⟨held, weight, clamped, number, bounds⟩
  refine ⟨base, weight, found, ?_, ?_⟩
  · rw [weight_of_base found, clamped]
    exact number
  · rcases bounds with isLow | isHigh | ⟨same, finite, above, below⟩
    · exact Or.inl isLow
    · exact Or.inr (Or.inl isHigh)
    · subst same
      exact Or.inr (Or.inr ⟨rfl, finite, above, below⟩)

/-- Exact weights lie between the bounds. -/
theorem weight_between {tariff : Tariff Rat} {low high : Rat} (bounded : tariff.Bounded low high)
    {reference : Int} {weight : Rat} (weighed : tariff.weight reference = .ok weight) :
    low ≤ weight ∧ weight ≤ high := by
  rcases inside_of_weight weighed with ⟨lower, upper⟩
  rcases Int.eq_ofNat_of_zero_le lower with ⟨index, rfl⟩
  rcases weight_spec bounded.numeric (show index < tariff.baseCosts.length by omega) with
    ⟨base, value, -, same, bounds⟩
  cases Except.ok.inj (weighed.symm.trans same)
  have ordered : low ≤ high := bounded.ordered
  rcases bounds with rfl | rfl | ⟨-, -, above, below⟩
  · exact ⟨le_refl _, ordered⟩
  · exact ⟨ordered, le_refl _⟩
  · exact ⟨not_lt.mp below, not_lt.mp above⟩

theorem weight_pos {tariff : Tariff Rat} {low high : Rat} (bounded : tariff.Bounded low high)
    {reference : Int} {weight : Rat} (weighed : tariff.weight reference = .ok weight) :
    0 < weight :=
  lt_of_lt_of_le bounded.positive (weight_between bounded weighed).1

end Tariff

end Egress
