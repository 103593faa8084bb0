import Egress.Proofs.Doubles

/-!
# The order of doubles

Doubles that are numbers are ordered by sign, then by exponent and then by mantissa, so each has a
place in a linear order.  Both zeros have one place, and no other two doubles share one: neither
comparisons nor sums, up to the sign of a zero, tell doubles in one place apart.

A sum of a number above zero and one that is not below it stays above zero: sums are no finer than
their parts, so nothing of them is lost below the least exponent.
-/

namespace Egress.Doubles

open Float.Model (Format UnpackedFloat totalExponent)
open Float.Model.UnpackedFloat

/-- The place of a number in the order of numbers. -/
def rank : UnpackedFloat → ℤ ×ₗ ℤ ×ₗ ℤ
  | .infinity .negative => toLex (-2, toLex (0, 0))
  | .finite .negative m e _ => toLex (-1, toLex (-e, -m))
  | .zero _ | .notANumber => toLex (0, toLex (0, 0))
  | .finite .positive m e _ => toLex (1, toLex (e, m))
  | .infinity .positive => toLex (2, toLex (0, 0))

theorem then_eq_lt_iff (e e' : Int) (m m' : Nat) :
    (compare e e').then (compare m m') = .lt ↔ e < e' ∨ e = e' ∧ m < m' := by
  rw [Ordering.then_eq_lt, compare_lt_iff_lt, compare_eq_iff_eq, compare_lt_iff_lt]

theorem then_eq_gt_iff (e e' : Int) (m m' : Nat) :
    (compare e e').then (compare m m') = .gt ↔ e' < e ∨ e = e' ∧ m' < m := by
  rw [Ordering.then_eq_gt, compare_gt_iff_gt, compare_eq_iff_eq, compare_gt_iff_gt]

variable {first second third : UnpackedFloat}

/-- Numbers compare as their places do. -/
theorem lt_iff_rank (isFirst : first ≠ .notANumber) (isSecond : second ≠ .notANumber) :
    first.lt second = true ↔ rank first < rank second := by
  rcases first with (_ | _) | _ | _ | ⟨_ | _, m, e, positive⟩ <;>
    rcases second with (_ | _) | _ | _ | ⟨_ | _, m', e', positive'⟩ <;>
    simp [UnpackedFloat.lt, UnpackedFloat.compare, rank, Prod.Lex.toLex_lt_toLex] at *
  case infinity.negative.infinity.positive => rfl
  case finite.negative.finite.negative => exact then_eq_gt_iff e e' m m'
  case finite.positive.finite.positive => exact then_eq_lt_iff e e' m m'

/-- The order of numbers is total. -/
theorem le_iff_not_lt (isFirst : first ≠ .notANumber) (isSecond : second ≠ .notANumber) :
    first.le second = true ↔ ¬ second.lt first = true := by
  rcases first with (_ | _) | _ | _ | ⟨_ | _, m, e, positive⟩ <;>
    rcases second with (_ | _) | _ | _ | ⟨_ | _, m', e', positive'⟩ <;>
    simp [UnpackedFloat.lt, UnpackedFloat.le, UnpackedFloat.compare] at *
  case infinity.negative.infinity.negative => rfl
  case infinity.negative.infinity.positive => rfl
  case infinity.positive.infinity.negative => decide
  case infinity.positive.infinity.positive => rfl
  case finite.negative.finite.negative =>
    rw [← Ordering.ne_lt_iff_isGE, then_eq_lt_iff, then_eq_gt_iff, @eq_comm _ e]
  case finite.positive.finite.positive =>
    rw [← Ordering.ne_gt_iff_isLE, then_eq_gt_iff, then_eq_lt_iff, @eq_comm _ e]

theorem le_iff_rank (isFirst : first ≠ .notANumber) (isSecond : second ≠ .notANumber) :
    first.le second = true ↔ rank first ≤ rank second := by
  rw [le_iff_not_lt isFirst isSecond, lt_iff_rank isSecond isFirst, not_lt]

theorem numbers_of_lt (less : first.lt second = true) :
    first ≠ .notANumber ∧ second ≠ .notANumber := by
  constructor
  · rintro rfl
    cases less
  · rintro rfl
    cases first <;> cases less

theorem numbers_of_le (smaller : first.le second = true) :
    first ≠ .notANumber ∧ second ≠ .notANumber := by
  constructor
  · rintro rfl
    cases smaller
  · rintro rfl
    cases first <;> cases smaller

theorem not_lt_notANumber (value : UnpackedFloat) : ¬ value.lt .notANumber = true :=
  fun less => (numbers_of_lt less).2 rfl

/-- Numbers in one place are the same, or they are zeros. -/
theorem eq_of_rank (isFirst : first ≠ .notANumber) (isSecond : second ≠ .notANumber)
    (level : rank first = rank second) :
    first = second ∨ ∃ sign other, first = .zero sign ∧ second = .zero other := by
  rcases first with (_ | _) | _ | _ | ⟨_ | _, m, e, positive⟩ <;>
    rcases second with (_ | _) | _ | _ | ⟨_ | _, m', e', positive'⟩ <;>
    simp_all [rank]

/-! ## Comparing doubles -/

variable {a b c : Float}

theorem number_of_isFinite (isFinite : Scalar.isFinite a = true) : unpacked a ≠ .notANumber := by
  intro undefined
  have isNumber : (unpacked a).isFinite = true := isFinite
  rw [undefined] at isNumber
  cases isNumber

theorem le_refl_of_isFinite (isFinite : Scalar.isFinite a = true) : a ≤ a := by
  have isNumber := number_of_isFinite isFinite
  rw [le_iff, le_iff_rank isNumber isNumber]

theorem le_of_not_lt_of_number (isNumber : unpacked a ≠ .notANumber)
    (also : unpacked b ≠ .notANumber) (notLess : ¬ b < a) : a ≤ b := by
  rw [lt_iff] at notLess
  rw [le_iff]
  exact (le_iff_not_lt isNumber also).mpr notLess

theorem le_of_not_lt_of_isFinite (isFinite : Scalar.isFinite a = true)
    (also : Scalar.isFinite b = true) (notLess : ¬ b < a) : a ≤ b :=
  le_of_not_lt_of_number (number_of_isFinite isFinite) (number_of_isFinite also) notLess

theorem level_of_moderate (moderate : Moderate a) (also : Moderate b) (notLess : ¬ a < b)
    (notMore : ¬ b < a) : a ≤ b ∧ b ≤ a := by
  have isNumber := (numbers_of_le ((le_iff _ _).mp moderate.1)).2
  have isNumberAlso := (numbers_of_le ((le_iff _ _).mp also.1)).2
  exact ⟨le_of_not_lt_of_number isNumber isNumberAlso notMore,
    le_of_not_lt_of_number isNumberAlso isNumber notLess⟩

theorem le_trans_of_le (smaller : a ≤ b) (further : b ≤ c) : a ≤ c := by
  rw [le_iff] at smaller further ⊢
  have numbers := numbers_of_le smaller
  have others := numbers_of_le further
  rw [le_iff_rank numbers.1 numbers.2] at smaller
  rw [le_iff_rank others.1 others.2] at further
  rw [le_iff_rank numbers.1 others.2]
  exact le_trans smaller further

theorem le_of_less (less : a < b) : a ≤ b := by
  rw [lt_iff] at less
  have numbers := numbers_of_lt less
  rw [lt_iff_rank numbers.1 numbers.2] at less
  rw [le_iff, le_iff_rank numbers.1 numbers.2]
  exact less.le

theorem lt_asymm_of_lt (less : a < b) : ¬ b < a := by
  rw [lt_iff] at less ⊢
  have numbers := numbers_of_lt less
  rw [lt_iff_rank numbers.1 numbers.2] at less
  rw [lt_iff_rank numbers.2 numbers.1]
  exact lt_asymm less

theorem lt_trans_of_lt (less : a < b) (further : b < c) : a < c := by
  rw [lt_iff] at less further ⊢
  have numbers := numbers_of_lt less
  have others := numbers_of_lt further
  rw [lt_iff_rank numbers.1 numbers.2] at less
  rw [lt_iff_rank others.1 others.2] at further
  rw [lt_iff_rank numbers.1 others.2]
  exact lt_trans less further

/-- Doubles that are no smaller than one another have one place. -/
theorem level_of_le (smaller : a ≤ b) (larger : b ≤ a) :
    unpacked a ≠ .notANumber ∧ unpacked b ≠ .notANumber ∧
      rank (unpacked a) = rank (unpacked b) := by
  rw [le_iff] at smaller larger
  have numbers := numbers_of_le smaller
  rw [le_iff_rank numbers.1 numbers.2] at smaller
  rw [le_iff_rank numbers.2 numbers.1] at larger
  exact ⟨numbers.1, numbers.2, le_antisymm smaller larger⟩

/-- No comparison tells doubles in one place apart. -/
theorem lt_iff_of_level (smaller : a ≤ b) (larger : b ≤ a) : a < c ↔ b < c := by
  rcases level_of_le smaller larger with ⟨isFirst, isSecond, level⟩
  rw [lt_iff, lt_iff]
  by_cases isNumber : unpacked c = .notANumber
  · rw [isNumber]
    exact iff_of_false (not_lt_notANumber _) (not_lt_notANumber _)
  · rw [lt_iff_rank isFirst isNumber, lt_iff_rank isSecond isNumber, level]

/-- Sums with doubles in one place are in one place. -/
theorem add_of_level (smaller : a ≤ b) (larger : b ≤ a) :
    a + c = b + c ∨ a + c ≤ b + c ∧ b + c ≤ a + c := by
  rcases level_of_le smaller larger with ⟨isFirst, isSecond, level⟩
  have sum : ∀ value : Float, value + c = Float.ofModel (.pack
      (add Format.binary64 (unpacked value) (unpacked c))) := fun _ => rfl
  rcases eq_of_rank isFirst isSecond level with same | ⟨sign, other, isZero, also⟩
  · rw [sum a, sum b, same]
    exact Or.inl rfl
  · by_cases isSum : ∃ sign, unpacked c = .zero sign
    · rcases isSum with ⟨third, isZero'⟩
      right
      rw [le_iff, le_iff, unpacked_add, unpacked_add, isZero, also, isZero']
      cases sign <;> cases other <;> cases third <;> decide +kernel
    · left
      rw [sum a, sum b, isZero, also]
      cases third : unpacked c with
      | zero sign => exact absurd ⟨sign, third⟩ isSum
      | _ => rfl

/-! ## Sums above zero -/

/-- Above zero, infinity included. -/
def Above : UnpackedFloat → Prop
  | .infinity .positive | .finite .positive _ _ _ => True
  | .infinity .negative | .finite .negative _ _ _ | .zero _ | .notANumber => False

theorem zero_lt_iff (value : Float) : Scalar.zero < value ↔ Above (unpacked value) := by
  rw [lt_iff, unpacked_zero]
  rcases unpacked value with (_ | _) | _ | (_ | _) | ⟨_ | _, m, e, positive⟩ <;>
    simp [Above, UnpackedFloat.lt, UnpackedFloat.compare]

theorem above_cases {value : UnpackedFloat} (above : Above value) :
    value = .infinity .positive ∨ ∃ m e positive, value = .finite .positive m e positive := by
  rcases value with (_ | _) | _ | _ | ⟨_ | _, m, e, positive⟩
  · cases above
  · exact Or.inl rfl
  · cases above
  · cases above
  · cases above
  · exact Or.inr ⟨m, e, positive, rfl⟩

/-- A number that has all its bits, or the least exponent, is not lost when it is stored. -/
theorem above_stored {m : Nat} {e : Int} (positive : 0 < m) (least : -1074 ≤ e)
    (kept : m.log2 = 52 ∨ m < 2 ^ 52) : Above (stored (.finite .positive m e positive)) := by
  rcases stored_finite .positive m e positive with ⟨-, same⟩ |
    ⟨-, ⟨-, small | ⟨short, divides⟩⟩ | ⟨_, _, _, same⟩⟩
  · rw [same]
    exact trivial
  · omega
  · have few := kept.resolve_left short
    exact absurd (Nat.le_of_dvd positive divides) (not_le.mpr few)
  · rw [same]
    exact trivial

/-- A mantissa of less than 53 bits is not shifted, and a longer one keeps 53 bits. -/
theorem above_roundWithAccuracy {m : Nat} {e : Int} (positive : 0 < m) (least : -1074 ≤ e) :
    Above (stored (roundWithAccuracy Format.binary64 .positive m e .exact)) := by
  have first := shift_eq m e
  have second := shift_eq (rounded m (shift m e)) (e + shift m e)
  have kept : (rounded m (shift m e) /
      2 ^ shift (rounded m (shift m e)) (e + shift m e)).log2 = 52 ∨
      0 < rounded m (shift m e) / 2 ^ shift (rounded m (shift m e)) (e + shift m e) ∧
        rounded m (shift m e) / 2 ^ shift (rounded m (shift m e)) (e + shift m e) < 2 ^ 52 := by
    by_cases long : 2 ^ 52 ≤ m
    · exact Or.inl (log2_rounded long least)
    · have bits := log2_le 51 (not_le.mp long)
      have none : shift m e = 0 := by omega
      rw [none, rounded_zero] at second ⊢
      have also : shift m (e + (0 : Nat)) = 0 := by omega
      rw [also, Nat.pow_zero, Nat.div_one]
      exact Or.inr ⟨positive, not_le.mp long⟩
  rcases roundWithAccuracy_exact .positive m e with ⟨none, -⟩ | ⟨nonzero, isRounded⟩
  · rw [none] at kept
    exact absurd kept (by decide)
  · rw [isRounded]
    exact above_stored nonzero (by omega) (kept.imp id And.right)

/-- Rounding loses no number whose exponent is not below the least one. -/
theorem above_round {m : Nat} {e : Int} (positive : 0 < m) (least : -1074 ≤ e) :
    Above (stored (UnpackedFloat.round Format.binary64 .positive m e)) := by
  have target : -1074 ≤ Format.binary64.targetExponent (totalExponent m e) := by
    rw [targetExponent_eq]
    exact le_max_right _ _
  unfold UnpackedFloat.round decreaseExponent
  dsimp only
  rw [Nat.shiftLeft_eq]
  exact above_roundWithAccuracy (Nat.mul_pos positive (Nat.two_pow_pos _)) (by omega)

/-- What is added to a number above zero does not make it vanish, unless it is below zero. -/
theorem above_add {first second : Float} (above : Above (unpacked first))
    (nonneg : Nonneg (unpacked second)) : Above (unpacked (first + second)) := by
  have unlimited : Above (stored (.infinity .positive)) := trivial
  rw [unpacked_add]
  rcases above_cases above with same | ⟨m, e, positive, same⟩
  · rw [same]
    rcases nonneg_cases nonneg with also | ⟨sign, also⟩ | ⟨m', e', positive', also⟩ <;>
      rw [also] <;> exact unlimited
  · rcases bounds_of_unpacked same with ⟨short, least, -⟩
    rw [same]
    rcases nonneg_cases nonneg with also | ⟨sign, also⟩ | ⟨m', e', positive', also⟩
    · rw [also]
      exact unlimited
    · rw [also]
      refine above_stored positive least ?_
      have bits := log2_le 52 short
      rcases Nat.lt_or_ge m (2 ^ 52) with few | many
      · exact Or.inr few
      · exact Or.inl (le_antisymm bits ((Nat.le_log2 positive.ne').mpr many))
    · rcases bounds_of_unpacked also with ⟨-, least', -⟩
      rw [also, add_positive]
      exact above_round (Nat.add_pos_left (Nat.mul_pos positive (Nat.two_pow_pos _)) _)
        (le_min least least')

/-- Growth that is not below zero leaves smoke where there was some, where the sum is a number. -/
theorem pos_of_grown {density growth : Float} (above : Scalar.zero < density)
    (grows : ¬ growth < Scalar.zero) (below : density + growth < Scalar.one) :
    Scalar.zero < density + growth := by
  rw [zero_lt_iff] at above ⊢
  exact above_add above (nonneg_growth grows below)

end Egress.Doubles
