import Egress.Proofs.Doubles

/-!
# Integers as numbers

Settings that count something are compared as numbers, and only then read as integers.  The numbers
have to tell an integer above one from the others, whatever its size.  Exact rationals do so, and
so do doubles: an integer is taken apart, rounded to 53 bits and stored, and if it was two or more
before, then it is two or more after each of these, or infinite.
-/

namespace Egress

/-- Numbers tell which integers are above one. -/
class LawfulNumerals (α : Type) [Scalar α] : Prop where
  one_lt_ofInt_iff (count : Int) : (Scalar.one : α) < Scalar.ofInt count ↔ 1 < count

instance : LawfulNumerals Rat where
  one_lt_ofInt_iff _ := Int.cast_lt

namespace Doubles

open Float.Model (Format UnpackedFloat totalExponent)
open Float.Model.UnpackedFloat

/-- The leading bit that is not stored, and the mantissa behind it. -/
theorem toNat_one_append {m : Nat} (bits : m.log2 = 52) : (1#1 ++ BitVec.ofNat 52 m).toNat = m := by
  have positive : m ≠ 0 := by
    rintro rfl
    cases bits
  rcases (Nat.log2_eq_iff positive).mp bits with ⟨least, below⟩
  rw [BitVec.toNat_append, BitVec.toNat_ofNat, Nat.shiftLeft_eq]
  change 2 ^ 52 ||| m % 2 ^ 52 = m
  rw [Nat.or_comm, Nat.or_two_pow_eq_add_of_lt (Nat.mod_lt m (Nat.two_pow_pos 52))]
  omega

/-- A number with 53 bits in the range of doubles is stored as it is. -/
theorem stored_of_normal (sign : Sign) {m : Nat} {e : Int} (positive : 0 < m) (bits : m.log2 = 52)
    (least : -1074 ≤ e) (most : e ≤ 971) :
    stored (.finite sign m e positive) = .finite sign m e positive := by
  have biased : e + Format.binary64.exponentBias + Format.binary64.mantissaBitsWithoutImplicit =
      e + 1075 := by
    change e + 1023 + 52 = e + 1075
    omega
  have fits : (BitVec.ofNat 11 (e + 1075).toNat).toNat = (e + 1075).toNat := by
    rw [BitVec.toNat_ofNat, Nat.mod_eq_of_lt (by omega)]
  have isNot : ∀ other : BitVec 11, (e + 1075).toNat ≠ other.toNat →
      BitVec.ofNat 11 (e + 1075).toNat ≠ other := by
    rintro other different rfl
    exact different fits.symm
  have notTopmost : BitVec.ofNat 11 (e + 1075).toNat ≠ 2047#11 := by
    apply isNot
    change (e + 1075).toNat ≠ 2047
    omega
  have notLowest : BitVec.ofNat 11 (e + 1075).toNat ≠ 0#11 := by
    apply isNot
    change (e + 1075).toNat ≠ 0
    omega
  have read : unpack Format.binary64 (packComponents Format.binary64 sign
      (BitVec.ofNat 11 (e + 1075).toNat) (BitVec.ofNat 52 m)) = .finite sign m e positive := by
    have back : ((BitVec.ofNat 11 (e + 1075).toNat).toNat : Int) - 1075 = e := by omega
    have bias : (Format.binary64.exponentBias : Int) = 1023 := rfl
    simp [unpack, notTopmost, notLowest, bias, toNat_one_append bits]
    omega
  unfold stored
  rw [pack]
  dsimp only
  rw [biased, if_neg (show ¬ 2 ^ Format.binary64.exponentBits ≤ (e + 1075).toNat + 1 by
    change ¬ 2048 ≤ (e + 1075).toNat + 1
    omega), if_pos (show m.log2 + 1 = Format.binary64.mantissaBits by rw [bits]; rfl)]
  exact read

/-- Two or more: infinite, or a number with 53 bits and its exponent. -/
def Several (value : UnpackedFloat) : Prop :=
  value = .infinity .positive ∨
    ∃ m e positive, value = .finite .positive m e positive ∧ m.log2 = 52 ∧ -51 ≤ e

theorem one_lt_of_several {value : Float} (several : Several (unpacked value)) :
    Scalar.one < value := by
  rw [lt_iff, unpacked_one]
  rcases several with same | ⟨m, e, positive, same, -, high⟩
  · rw [same]
    rfl
  · have less : compare (-52 : Int) e = .lt := compare_lt_iff_lt.mpr (by omega)
    rw [same, UnpackedFloat.lt, UnpackedFloat.compare, less]
    rfl

/-- What is two or more with at least 53 bits stays so when it is rounded and stored. -/
theorem several_of_rounded {m : Nat} {e : Int} (long : 2 ^ 52 ≤ m) (high : 2 ^ (1 - e).toNat ≤ m)
    (least : -1074 ≤ e) :
    Several (stored (roundWithAccuracy Format.binary64 .positive m e .exact)) := by
  have positive : m ≠ 0 := by omega
  have first := shift_eq m e
  have enough : 52 ≤ m.log2 := (Nat.le_log2 positive).mpr long
  have above : (1 - e).toNat ≤ m.log2 := (Nat.le_log2 positive).mpr high
  have bits := log2_rounded long least
  rcases roundWithAccuracy_exact .positive m e with ⟨none, -⟩ | ⟨nonzero, isRounded⟩
  · rw [none] at bits
    exact absurd bits (by decide)
  · rw [isRounded]
    by_cases fits : e + shift m e + shift (rounded m (shift m e)) (e + shift m e) ≤ 971
    · rw [stored_of_normal .positive nonzero bits (by omega) fits]
      exact Or.inr ⟨_, _, nonzero, rfl, bits, by omega⟩
    · rcases stored_finite .positive _ _ nonzero with ⟨-, isInfinite⟩ | ⟨low, -⟩
      · exact Or.inl isInfinite
      · exact absurd low fits

theorem several_mul_one {value : Float} (several : Several (unpacked value)) :
    Several (unpacked (value * Scalar.one)) := by
  rw [unpacked_mul, unpacked_one]
  rcases several with same | ⟨m, e, positive, same, bits, high⟩
  · rw [same]
    exact Or.inl rfl
  · have least : 2 ^ 52 ≤ m := (Nat.le_log2 positive.ne').mp bits.ge
    have long : 2 ^ 104 ≤ m * 2 ^ 52 := Nat.mul_le_mul_right (2 ^ 52) least
    rw [same]
    refine several_of_rounded (by omega) (le_trans ?_ long) (by omega)
    exact Nat.pow_le_pow_right (by decide) (by omega)

/-- A natural number of at most 53 bits is brought to 53 bits before it is rounded. -/
theorem several_of_short {count : Nat} (several : 2 ≤ count) (short : count < 2 ^ 53) :
    Several (stored (round Format.binary64 .positive count 0)) := by
  have bits := log2_le 52 short
  have isShift : (0 - Format.binary64.targetExponent (totalExponent count 0)).toNat =
      52 - count.log2 := by
    rw [targetExponent_eq, totalExponent]
    omega
  unfold UnpackedFloat.round decreaseExponent
  dsimp only
  rw [isShift, Nat.shiftLeft_eq]
  have doubled : 2 ^ (52 - count.log2 + 1) ≤ count * 2 ^ (52 - count.log2) := by
    rw [Nat.pow_succ, Nat.mul_comm]
    exact Nat.mul_le_mul_right _ several
  refine several_of_rounded ?_ ?_ (by omega)
  · calc 2 ^ 52 = 2 ^ count.log2 * 2 ^ (52 - count.log2) := by
          rw [← Nat.pow_add, Nat.add_sub_cancel' bits]
      _ ≤ _ := Nat.mul_le_mul_right _ (Nat.log2_self_le (by omega))
  · refine le_trans (Nat.pow_le_pow_right (by decide) ?_) doubled
    omega

/-- A natural number of at most 53 bits, as a double. -/
theorem unpacked_toFloat {count : Nat} (positive : 0 < count) (short : count < 2 ^ 53) :
    unpacked count.toUInt64.toFloat = stored (round Format.binary64 .positive count 0) := by
  have same : count.toUInt64.toNat = count := Nat.mod_eq_of_lt (by omega)
  have above : compare (count : Int) 0 = .gt := compare_gt_iff_gt.mpr (by omega)
  change stored (normalize Format.binary64 count.toUInt64.toNat 0 .positive) = _
  rw [same]
  unfold UnpackedFloat.normalize
  rw [above]
  rfl

/-- A natural number is read as the product of its digits, shifted by 53 bits, and one. -/
theorem unpacked_ofScientific {count : Nat} (positive : 0 < count) :
    unpacked ⟨Float.Model.ofScientific count 0⟩ =
      stored (roundWithAccuracy Format.binary64 .positive (count * 2 ^ 53) (-53) .exact) := by
  have nonzero : count ≠ 0 := positive.ne'
  have notLarge : ¬ (0 : Int) > 2 ^ Format.binary64.exponentBits := by decide
  have notSmall : ¬ (0 : Int) < -(2 ^ Format.binary64.exponentBits + count.log2) := by
    change ¬ (0 : Int) < -(2048 + count.log2)
    omega
  have digits : count <<< Format.binary64.mantissaBits * 10 ^ (0 : Int).toNat = count * 2 ^ 53 := by
    rw [Nat.shiftLeft_eq]
    exact Nat.mul_one _
  change stored (UnpackedFloat.ofScientific Format.binary64 count 0) = _
  unfold UnpackedFloat.ofScientific
  rw [dif_neg nonzero, if_neg notLarge, if_neg notSmall, if_pos le_rfl, ← digits]
  rfl

/-- Natural numbers above one are two or more. -/
theorem several_ofNat {count : Nat} (several : 2 ≤ count) :
    Several (unpacked (Float.ofNat count)) := by
  change Several (unpacked (Float.ofScientific count false 0))
  unfold Float.ofScientific
  by_cases short : count < 2 ^ 53
  · rw [dif_pos ⟨short, by decide⟩]
    change Several (unpacked (count.toUInt64.toFloat * Scalar.one))
    apply several_mul_one
    rw [unpacked_toFloat (by omega) short]
    exact several_of_short several short
  · rw [dif_neg (fun both => short both.1)]
    change Several (unpacked ⟨Float.Model.ofScientific count 0⟩)
    rw [unpacked_ofScientific (by omega)]
    have high : 2 ^ 54 ≤ count * 2 ^ 53 := by omega
    exact several_of_rounded (by omega) high (by omega)

/-- The opposite of what is two or more needs no rounding. -/
theorem unpacked_neg_of_several {value : Float} (several : Several (unpacked value)) :
    unpacked (-value) = UnpackedFloat.neg (unpacked value) := by
  change stored (UnpackedFloat.neg (unpacked value)) = _
  rcases several with same | ⟨m, e, positive, same, bits, high⟩
  · rw [same]
    rfl
  · rw [same]
    exact stored_of_normal .negative positive bits (by omega) (bounds_of_unpacked same).2.2

/-- The opposite of what is two or more is not above one. -/
theorem not_one_lt_neg {value : Float} (several : Several (unpacked value)) :
    ¬ Scalar.one < -value := by
  rw [lt_iff, unpacked_one, unpacked_neg_of_several several]
  rcases several with same | ⟨m, e, positive, same, -, -⟩
  · rw [same]
    exact Bool.false_ne_true
  · rw [same]
    exact Bool.false_ne_true

/-- The opposite of what is two or more is below zero. -/
theorem not_zero_le_neg {value : Float} (several : Several (unpacked value)) :
    ¬ Scalar.zero ≤ -value := by
  rw [zero_le_iff, unpacked_neg_of_several several]
  rcases several with same | ⟨m, e, positive, same, -, -⟩
  · rw [same]
    exact id
  · rw [same]
    exact id

instance : LawfulNumerals Float where
  one_lt_ofInt_iff := by
    rintro (count | count)
    · match count with
      | 0 => decide +kernel
      | 1 => decide +kernel
      | count + 2 =>
        refine iff_of_true (one_lt_of_several (several_ofNat (by omega))) ?_
        rw [Int.ofNat_eq_natCast]
        omega
    · match count with
      | 0 => decide +kernel
      | count + 1 =>
        refine iff_of_false (not_one_lt_neg (several_ofNat (by omega))) ?_
        exact fun above => absurd above (by omega)

end Doubles

end Egress
