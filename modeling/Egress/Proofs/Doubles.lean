import Mathlib
import Egress.Proofs.Cycle
import Egress.Proofs.Densities

/-!
# Densities in doubles

Doubles obey the laws that densities, chances and lengths ask for.  Sums of numbers that are not
below zero keep their sign when they are rounded, so smoke that grows stays above air, and the order
of two summands does not matter.  A finite scale times a density is no larger than the scale, and
one more than a finite number is finite, because a result that lies less than half a place beyond
the largest double is rounded back to it.

A double is taken apart into its sign, mantissa and exponent, an operation is carried out on exact
numbers, and the result is rounded and stored.  Rounding shifts the mantissa to the right until no
more bits are left than fit, and looks at the first bit that it drops; if rounding up carries into
one bit more, the mantissa is shifted once again.  All that is needed of it are bounds: the rounded
mantissa lies between the quotient and the quotient rounded up where that bit is set.
-/

namespace Egress.Doubles

open Float.Model (Format UnpackedFloat totalExponent)
open Float.Model.UnpackedFloat

/-! ## Storing -/

/-- A double taken apart. -/
def unpacked (value : Float) : UnpackedFloat := value.toModel.unpack

/-- What remains of a result once it is stored in 64 bits. -/
def stored (result : UnpackedFloat) : UnpackedFloat :=
  unpack Format.binary64 (pack Format.binary64 result)

theorem unpacked_add (first second : Float) : unpacked (first + second) =
    stored (add Format.binary64 (unpacked first) (unpacked second)) := rfl

theorem unpacked_mul (first second : Float) : unpacked (first * second) =
    stored (mul Format.binary64 (unpacked first) (unpacked second)) := rfl

/-- What the fields of a double say. -/
theorem unpack_packComponents (sign : Sign) (exponent : BitVec 11) (mantissa : BitVec 52) :
    let fields := unpack Format.binary64 (packComponents Format.binary64 sign exponent mantissa)
    (exponent = 2047#11 ∧ mantissa = 0#52 ∧ fields = .infinity sign) ∨
    (exponent = 2047#11 ∧ mantissa ≠ 0#52 ∧ fields = .notANumber) ∨
    (exponent = 0#11 ∧ mantissa = 0#52 ∧ fields = .zero sign) ∨
    (exponent ≠ 2047#11 ∧ (exponent = 0#11 → mantissa ≠ 0#52) ∧ ∃ m e positive,
      fields = .finite sign m e positive ∧ m < 2 ^ 53 ∧ -1074 ≤ e ∧ e ≤ 971) := by
  have bias : (Format.binary64.exponentBias : Int) = 1023 := rfl
  have short := mantissa.isLt
  by_cases topmost : exponent = 2047#11
  · by_cases blank : mantissa = 0#52
    · simp [unpack, topmost, blank]
    · simp [unpack, topmost, blank]
  · by_cases lowest : exponent = 0#11
    · by_cases blank : mantissa = 0#52
      · simp [unpack, lowest, blank]
      · have positive : 0 < mantissa.toNat := BitVec.toNat_pos_of_ne_zero blank
        refine Or.inr (Or.inr (Or.inr ⟨topmost, fun _ => blank, mantissa.toNat, -1074, positive,
          ?_, by omega, by omega, by omega⟩))
        simp [unpack, lowest, blank, bias]
    · have positive : 0 < (1#1 ++ mantissa).toNat := by
        rw [BitVec.toNat_append]
        exact lt_of_lt_of_le (by decide) Nat.left_le_or
      have apart : ∀ field : BitVec 11, exponent ≠ field → exponent.toNat ≠ field.toNat :=
        fun field different same => different (BitVec.eq_of_toNat_eq same)
      have below : exponent.toNat ≠ 2047 := apart _ topmost
      have above : exponent.toNat ≠ 0 := apart _ lowest
      have within := exponent.isLt
      refine Or.inr (Or.inr (Or.inr ⟨topmost, fun same => absurd same lowest,
        (1#1 ++ mantissa).toNat, exponent.toNat - 1075, positive, ?_, (1#1 ++ mantissa).isLt,
        by omega, by omega⟩))
      simp [unpack, lowest, topmost, bias]

/-- How a finite result is stored: too large it is infinite, and too small it is zero. -/
theorem stored_finite (sign : Sign) (m : Nat) (e : Int) (positive : 0 < m) :
    (971 < e ∧ stored (.finite sign m e positive) = .infinity sign) ∨
    e ≤ 971 ∧
      ((stored (.finite sign m e positive) = .zero sign ∧
          (e < -1074 ∨ m.log2 ≠ 52 ∧ 2 ^ 52 ∣ m)) ∨
        ∃ m' e' positive', stored (.finite sign m e positive) = .finite sign m' e' positive') := by
  have biased : e + Format.binary64.exponentBias + Format.binary64.mantissaBitsWithoutImplicit =
      e + 1075 := by
    change e + 1023 + 52 = e + 1075
    omega
  unfold stored
  rw [pack]
  dsimp only
  rw [biased, show 2 ^ Format.binary64.exponentBits = 2048 from rfl,
    show Format.binary64.mantissaBits = 52 + 1 from rfl]
  by_cases large : 2048 ≤ (e + 1075).toNat + 1
  · rw [if_pos large]
    rcases unpack_packComponents sign 2047#11 0#52 with ⟨-, -, same⟩ | ⟨-, set, -⟩ |
      ⟨impossible, -⟩ | ⟨impossible, -⟩
    · exact Or.inl ⟨by omega, same⟩
    · exact absurd rfl set
    · exact absurd impossible (by decide)
    · exact absurd rfl impossible
  · have fits : (e + 1075).toNat % 2048 = (e + 1075).toNat := Nat.mod_eq_of_lt (by omega)
    have field : ∀ value : Nat, value < 2048 → (e + 1075).toNat ≠ value →
        BitVec.ofNat 11 (e + 1075).toNat ≠ BitVec.ofNat 11 value := by
      intro value small different same
      have values := congrArg BitVec.toNat same
      rw [BitVec.toNat_ofNat, BitVec.toNat_ofNat] at values
      omega
    rw [if_neg large]
    refine Or.inr ⟨by omega, ?_⟩
    by_cases normal : m.log2 + 1 = 52 + 1
    · rw [if_pos normal]
      rcases unpack_packComponents sign (BitVec.ofNat 11 (e + 1075).toNat) (BitVec.ofNat 52 m) with
        ⟨topmost, -⟩ | ⟨topmost, -⟩ | ⟨lowest, -, isZero⟩ | ⟨-, -, _, _, _, isFinite, -⟩
      · exact absurd topmost (field 2047 (by omega) (by omega))
      · exact absurd topmost (field 2047 (by omega) (by omega))
      · refine Or.inl ⟨isZero, Or.inl ?_⟩
        by_contra within
        exact field 0 (by omega) (by omega) lowest
      · exact Or.inr ⟨_, _, _, isFinite⟩
    · rw [if_neg normal]
      rcases unpack_packComponents sign 0#11 (BitVec.ofNat 52 m) with
        ⟨topmost, -⟩ | ⟨topmost, -⟩ | ⟨-, blank, isZero⟩ | ⟨-, -, _, _, _, isFinite, -⟩
      · exact absurd topmost (by decide)
      · exact absurd topmost (by decide)
      · have low := congrArg BitVec.toNat blank
        rw [BitVec.toNat_ofNat] at low
        exact Or.inl ⟨isZero, Or.inr ⟨by omega, Nat.dvd_of_mod_eq_zero low⟩⟩
      · exact Or.inr ⟨_, _, _, isFinite⟩

/-! ## Rounding -/

/-- Shifting a mantissa to the right divides it. -/
theorem mantissa_shiftRight (m k : Nat) :
    (ExtendedMantissa.ofMantissaAndAccuracy m .exact >>> k).mantissa = m / 2 ^ k := by
  induction k with
  | zero => exact (Nat.div_one m).symm
  | succ k hypothesis =>
    have halved : (ExtendedMantissa.ofMantissaAndAccuracy m .exact >>> (k + 1)).mantissa =
        (ExtendedMantissa.ofMantissaAndAccuracy m .exact >>> k).mantissa / 2 := rfl
    rw [halved, hypothesis, Nat.div_div_eq_div_mul, Nat.pow_succ]

/-- A mantissa that is shifted to the right and rounded to the nearest. -/
def rounded (m k : Nat) : Nat :=
  (ExtendedMantissa.ofMantissaAndAccuracy m .exact >>> k).roundedMantissa

theorem rounded_zero (m : Nat) : rounded m 0 = m := rfl

theorem le_rounded (m k : Nat) : m / 2 ^ k ≤ rounded m k := by
  rw [← mantissa_shiftRight]
  unfold rounded ExtendedMantissa.roundedMantissa
  rcases ExtendedMantissa.ofMantissaAndAccuracy m .exact >>> k with ⟨mantissa, _ | _, _ | _⟩
  · exact Nat.le_refl mantissa
  · exact Nat.le_refl mantissa
  · exact Nat.le_add_right mantissa _
  · exact Nat.le_add_right mantissa 1

/-- Rounding goes up at most where the first bit that is dropped is set. -/
theorem rounded_succ_le (m k : Nat) : rounded m (k + 1) ≤ (m / 2 ^ k + 1) / 2 := by
  have bit : (ExtendedMantissa.ofMantissaAndAccuracy m .exact >>> (k + 1)).roundBit =
      (m / 2 ^ k % 2 != 0) := by
    rw [← mantissa_shiftRight]
    rfl
  have whole : (ExtendedMantissa.ofMantissaAndAccuracy m .exact >>> (k + 1)).mantissa =
      m / 2 ^ k / 2 := by
    rw [mantissa_shiftRight, Nat.pow_succ, Nat.div_div_eq_div_mul]
  unfold rounded ExtendedMantissa.roundedMantissa
  generalize ExtendedMantissa.ofMantissaAndAccuracy m .exact >>> (k + 1) = shifted at bit whole ⊢
  rcases shifted with ⟨mantissa, _ | _, _ | _⟩
  all_goals
    simp only [ExtendedMantissa.accuracy, Accuracy.roundToNearestEven] at bit whole ⊢
  · omega
  · omega
  · have odd : m / 2 ^ k % 2 ≠ 0 := bne_iff_ne.mp bit.symm
    omega
  · have odd : m / 2 ^ k % 2 ≠ 0 := bne_iff_ne.mp bit.symm
    omega

/-- The exponent to which a result is rounded. -/
theorem targetExponent_eq (total : Int) :
    Format.binary64.targetExponent total = max (total - 53) (-1074) := rfl

/-- The shift that brings a mantissa to the exponent that it asks for. -/
def shift (m : Nat) (e : Int) : Nat :=
  (Format.binary64.targetExponent (totalExponent m e) - e).toNat

theorem shift_eq (m : Nat) (e : Int) :
    (shift m e : Int) = max (max (m.log2 + 1 + e - 53) (-1074) - e) 0 :=
  Int.toNat_eq_max _

/-- Rounding shifts once to round, and once more if rounding up gave one bit too many. -/
theorem roundWithAccuracy_exact (sign : Sign) (m : Nat) (e : Int) :
    let first := shift m e
    let second := shift (rounded m first) (e + first)
    let mantissa := rounded m first / 2 ^ second
    (mantissa = 0 ∧ roundWithAccuracy Format.binary64 sign m e .exact = .zero sign) ∨
      ∃ positive, roundWithAccuracy Format.binary64 sign m e .exact =
        .finite sign mantissa (e + first + second) positive := by
  intro first second mantissa
  have isMantissa : (ExtendedMantissa.ofMantissaAndAccuracy (rounded m first) .exact >>>
      second).mantissa = mantissa := mantissa_shiftRight _ _
  have shape : roundWithAccuracy Format.binary64 sign m e .exact =
      if isZero : (ExtendedMantissa.ofMantissaAndAccuracy (rounded m first) .exact >>>
        second).mantissa = 0 then .zero sign
      else .finite sign _ (e + first + second) (Nat.pos_of_ne_zero isZero) := rfl
  rw [shape]
  by_cases isZero : mantissa = 0
  · exact Or.inl ⟨isZero, dif_pos (isMantissa.trans isZero)⟩
  · refine Or.inr ⟨Nat.pos_of_ne_zero isZero, ?_⟩
    rw [dif_neg (isMantissa ▸ isZero)]
    congr 1

/-- A mantissa has no more bits after rounding than fit, up to a carry. -/
theorem rounded_shift_le (m : Nat) (e : Int) : rounded m (shift m e) ≤ 2 ^ 53 := by
  have length := shift_eq m e
  have below : m < 2 ^ (m.log2 + 1) := Nat.lt_log2_self
  cases isShift : shift m e with
  | zero =>
    have short : m.log2 + 1 ≤ 53 := by omega
    rw [rounded_zero]
    exact (below.le).trans (Nat.pow_le_pow_right (by decide) short)
  | succ k =>
    have short : m.log2 + 1 ≤ 54 + k := by omega
    have dropped : m / 2 ^ k < 2 ^ 54 := by
      rw [Nat.div_lt_iff_lt_mul (Nat.two_pow_pos k), ← Nat.pow_add]
      exact below.trans_le (Nat.pow_le_pow_right (by decide) short)
    have up := rounded_succ_le m k
    omega

theorem log2_le {m : Nat} (bits : Nat) (below : m < 2 ^ (bits + 1)) : m.log2 ≤ bits := by
  by_cases isZero : m = 0
  · rw [isZero, Nat.log2_zero]
    exact Nat.zero_le bits
  · exact Nat.lt_succ_iff.mp ((Nat.log2_lt isZero).mpr below)

/-- A result that is not too large to be stored stays so when it is rounded. -/
theorem exponent_le {m : Nat} {e : Int} (low : e ≤ 970)
    (bounded : m < (2 ^ 54 - 1) * 2 ^ (970 - e).toNat) :
    e + shift m e + shift (rounded m (shift m e)) (e + shift m e) ≤ 971 := by
  have first := shift_eq m e
  have second := shift_eq (rounded m (shift m e)) (e + shift m e)
  have most := rounded_shift_le m e
  by_cases room : e + shift m e ≤ 970
  · have bits := log2_le 53 (most.trans_lt (by decide))
    omega
  · have below : m < 2 ^ (53 + (970 - e).toNat + 1) := by
      have wider : (2 ^ 54 - 1) * 2 ^ (970 - e).toNat ≤ 2 ^ 54 * 2 ^ (970 - e).toNat :=
        Nat.mul_le_mul_right _ (by decide)
      rw [← Nat.pow_add] at wider
      exact bounded.trans_le (wider.trans (Nat.pow_le_pow_right (by decide) (by omega)))
    have bits := log2_le _ below
    -- all bits but one are used, and the first that is dropped is not set
    have isShift : shift m e = (970 - e).toNat + 1 := by omega
    have dropped : m / 2 ^ (970 - e).toNat < 2 ^ 54 - 1 :=
      (Nat.div_lt_iff_lt_mul (Nat.two_pow_pos _)).mpr bounded
    have up := rounded_succ_le m (970 - e).toNat
    rw [← isShift] at up
    have short := log2_le 52 (show rounded m (shift m e) < 2 ^ 53 by omega)
    omega

/-- A result of at least 53 bits that is not below the least exponent keeps 53 bits. -/
theorem log2_rounded {m : Nat} {e : Int} (long : 2 ^ 52 ≤ m) (least : -1074 ≤ e) :
    (rounded m (shift m e) / 2 ^ shift (rounded m (shift m e)) (e + shift m e)).log2 = 52 := by
  have first := shift_eq m e
  have second := shift_eq (rounded m (shift m e)) (e + shift m e)
  have most := rounded_shift_le m e
  have positive : m ≠ 0 := by omega
  have bits : 52 ≤ m.log2 := (Nat.le_log2 positive).mpr long
  have isShift : shift m e = m.log2 - 52 := by omega
  have kept : 2 ^ 52 ≤ m / 2 ^ shift m e := by
    rw [Nat.le_div_iff_mul_le (Nat.two_pow_pos _), ← Nat.pow_add, isShift,
      Nat.add_sub_cancel' bits]
    exact Nat.log2_self_le positive
  have least := kept.trans (le_rounded m (shift m e))
  rcases Nat.lt_or_ge (rounded m (shift m e)) (2 ^ 53) with fits | carried
  · have exact_ : (rounded m (shift m e)).log2 = 52 :=
      (Nat.log2_eq_iff (by omega)).mpr ⟨least, fits⟩
    have none : shift (rounded m (shift m e)) (e + shift m e) = 0 := by omega
    rw [none, Nat.pow_zero, Nat.div_one]
    exact exact_
  · have isCarry : rounded m (shift m e) = 2 ^ 53 := by omega
    have isBits : (rounded m (shift m e)).log2 = 53 := by
      rw [isCarry]
      exact Nat.log2_two_pow
    have one : shift (rounded m (shift m e)) (e + shift m e) = 1 := by omega
    rw [one, isCarry]
    decide

/-- A rounded result that is not too large is stored as a number or as zero. -/
theorem stored_rounded (sign : Sign) {m : Nat} {e : Int} (low : e ≤ 970)
    (bounded : m < (2 ^ 54 - 1) * 2 ^ (970 - e).toNat) :
    stored (roundWithAccuracy Format.binary64 sign m e .exact) = .zero sign ∨
      ∃ m' e' positive, stored (roundWithAccuracy Format.binary64 sign m e .exact) =
        .finite sign m' e' positive := by
  have upper := exponent_le low bounded
  rcases roundWithAccuracy_exact sign m e with ⟨-, isZero⟩ | ⟨positive, isRounded⟩
  · rw [isZero]
    exact Or.inl unpack_packedZero
  · rw [isRounded]
    rcases stored_finite sign _
        (e + shift m e + shift (rounded m (shift m e)) (e + shift m e)) positive with
      ⟨large, -⟩ | ⟨-, ⟨isZero, -⟩ | isFinite⟩
    · omega
    · exact Or.inl isZero
    · exact Or.inr isFinite

/-- A rounded result of at least 53 bits that is neither too large nor too small is stored as a
number. -/
theorem stored_normal (sign : Sign) {m : Nat} {e : Int} (low : e ≤ 970)
    (bounded : m < (2 ^ 54 - 1) * 2 ^ (970 - e).toNat) (long : 2 ^ 52 ≤ m) (least : -1074 ≤ e) :
    ∃ m' e' positive, stored (roundWithAccuracy Format.binary64 sign m e .exact) =
      .finite sign m' e' positive := by
  have upper := exponent_le low bounded
  have bits := log2_rounded long least
  rcases roundWithAccuracy_exact sign m e with ⟨none, -⟩ | ⟨positive, isRounded⟩
  · rw [none] at bits
    exact absurd bits (by decide)
  · rw [isRounded]
    rcases stored_finite sign _
        (e + shift m e + shift (rounded m (shift m e)) (e + shift m e)) positive with
      ⟨large, -⟩ | ⟨-, ⟨-, small | ⟨short, -⟩⟩ | isFinite⟩
    · omega
    · omega
    · exact absurd bits short
    · exact isFinite

/-! ## Values -/

/-- The bounds of the mantissa and the exponent of a double. -/
theorem bounds_of_unpacked {value : Float} {sign : Sign} {m : Nat} {e : Int} {positive : 0 < m}
    (isFinite : unpacked value = .finite sign m e positive) :
    m < 2 ^ 53 ∧ -1074 ≤ e ∧ e ≤ 971 := by
  let bits : BitVec Format.binary64.numBits := value.toModel.toBits.toBitVec
  have isFields := packComponents_unpackSign_unpackExponent_unpackMantissa bits
  have read : unpack Format.binary64 bits = .finite sign m e positive := isFinite
  rw [← isFields] at read
  rcases unpack_packComponents (Sign.ofBitVec (unpackSign bits)) (unpackExponent bits)
      (unpackMantissa bits) with ⟨-, -, same⟩ | ⟨-, -, same⟩ | ⟨-, -, same⟩ |
      ⟨-, -, _, _, _, same, bounds⟩
  · cases same.symm.trans read
  · cases same.symm.trans read
  · cases same.symm.trans read
  · cases same.symm.trans read
    exact bounds

theorem le_iff (first second : Float) :
    first ≤ second ↔ (unpacked first).le (unpacked second) = true :=
  decide_eq_true_iff

theorem lt_iff (first second : Float) :
    first < second ↔ (unpacked first).lt (unpacked second) = true :=
  decide_eq_true_iff

theorem unpacked_zero : unpacked (Scalar.zero : Float) = .zero .positive := by
  rfl

theorem unpacked_one :
    unpacked (Scalar.one : Float) = .finite .positive (2 ^ 52) (-52) (by decide) := by
  rfl

/-- Zero or above, infinity included. -/
def Nonneg : UnpackedFloat → Prop
  | .infinity .positive | .finite .positive _ _ _ | .zero _ => True
  | .infinity .negative | .finite .negative _ _ _ | .notANumber => False

theorem zero_le_iff (value : Float) : Scalar.zero ≤ value ↔ Nonneg (unpacked value) := by
  rw [le_iff, unpacked_zero]
  rcases unpacked value with (_ | _) | _ | (_ | _) | ⟨_ | _, m, e, positive⟩ <;>
    simp [Nonneg, UnpackedFloat.le, UnpackedFloat.compare]

theorem nonneg_cases {value : UnpackedFloat} (nonneg : Nonneg value) :
    value = .infinity .positive ∨ (∃ sign, value = .zero sign) ∨
      ∃ m e positive, value = .finite .positive m e positive := by
  rcases value with (_ | _) | _ | sign | ⟨_ | _, m, e, positive⟩
  · cases nonneg
  · exact Or.inl rfl
  · cases nonneg
  · exact Or.inr (Or.inl ⟨sign, rfl⟩)
  · cases nonneg
  · exact Or.inr (Or.inr ⟨m, e, positive, rfl⟩)

theorem nonneg_of_lt {first second : UnpackedFloat} (nonneg : Nonneg first)
    (less : first.lt second = true) : Nonneg second := by
  rcases nonneg_cases nonneg with rfl | ⟨sign, rfl⟩ | ⟨m, e, positive, rfl⟩ <;>
    rcases second with (_ | _) | _ | _ | ⟨_ | _, m', e', positive'⟩ <;>
    first | exact trivial | cases less

/-- What is not below zero is above it, zero or undefined. -/
theorem nonneg_of_not_lt {value : UnpackedFloat}
    (least : ¬ value.lt (.zero .positive) = true) : Nonneg value ∨ value = .notANumber := by
  rcases value with (_ | _) | _ | _ | ⟨_ | _, m, e, positive⟩
  · exact absurd rfl least
  · exact Or.inl trivial
  · exact Or.inr rfl
  · exact Or.inl trivial
  · exact absurd rfl least
  · exact Or.inl trivial

theorem stored_zero (sign : Sign) : stored (.zero sign) = .zero sign := unpack_packedZero

theorem nonneg_stored {result : UnpackedFloat} (nonneg : Nonneg result) :
    Nonneg (stored result) := by
  rcases nonneg_cases nonneg with rfl | ⟨sign, rfl⟩ | ⟨m, e, positive, rfl⟩
  · exact trivial
  · rw [stored_zero]
    exact trivial
  · rcases stored_finite .positive m e positive with ⟨-, same⟩ | ⟨-, ⟨same, -⟩ | ⟨_, _, _, same⟩⟩
    · rw [same]
      exact trivial
    · rw [same]
      exact trivial
    · rw [same]
      exact trivial

/-- Rounding keeps the sign. -/
theorem nonneg_round (m : Nat) (e : Int) :
    Nonneg (UnpackedFloat.round Format.binary64 .positive m e) := by
  unfold UnpackedFloat.round
  dsimp only
  rcases roundWithAccuracy_exact .positive
      (decreaseExponent m e (Format.binary64.targetExponent (totalExponent m e))).1
      (decreaseExponent m e (Format.binary64.targetExponent (totalExponent m e))).2 with
    ⟨-, same⟩ | ⟨_, same⟩
  · rw [same]
    exact trivial
  · rw [same]
    exact trivial

/-- The mantissas of two positive numbers at one exponent. -/
theorem add_positive (m m' : Nat) (e e' : Int) (positive : 0 < m) (positive' : 0 < m') :
    add Format.binary64 (.finite .positive m e positive) (.finite .positive m' e' positive') =
      UnpackedFloat.round Format.binary64 .positive
        (m * 2 ^ (e - min e e').toNat + m' * 2 ^ (e' - min e e').toNat) (min e e') := by
  have above : 0 < m * 2 ^ (e - min e e').toNat + m' * 2 ^ (e' - min e e').toNat :=
    Nat.add_pos_left (Nat.mul_pos positive (Nat.two_pow_pos _)) _
  rw [add]
  simp only [decreaseExponent, Nat.shiftLeft_eq, Sign.apply]
  rw [← Int.natCast_add]
  generalize m * 2 ^ (e - min e e').toNat + m' * 2 ^ (e' - min e e').toNat = sum at above ⊢
  unfold UnpackedFloat.normalize
  have isAbove : compare (sum : Int) 0 = .gt := compare_gt_iff_gt.mpr (by omega)
  rw [isAbove]
  rfl

/-- Sums of numbers not below zero are not below zero. -/
theorem nonneg_add {first second : UnpackedFloat} (nonneg : Nonneg first)
    (also : Nonneg second) : Nonneg (add Format.binary64 first second) := by
  rcases nonneg_cases nonneg with rfl | ⟨sign, rfl⟩ | ⟨m, e, positive, rfl⟩
  · rcases nonneg_cases also with rfl | ⟨other, rfl⟩ | ⟨m', e', positive', rfl⟩ <;> exact trivial
  · rcases nonneg_cases also with rfl | ⟨other, rfl⟩ | ⟨m', e', positive', rfl⟩
    · exact trivial
    · rw [add]
      split <;> exact trivial
    · exact trivial
  · rcases nonneg_cases also with rfl | ⟨other, rfl⟩ | ⟨m', e', positive', rfl⟩
    · exact trivial
    · exact trivial
    · rw [add_positive]
      exact nonneg_round _ _

/-! ## Sums -/

/-- Sums do not depend on the order of their parts: exact numbers are added before any rounding. -/
theorem sum_comm (first second : UnpackedFloat) :
    add Format.binary64 first second = add Format.binary64 second first := by
  cases first with
  | notANumber => cases second <;> rfl
  | infinity sign =>
    cases second with
    | infinity other => cases sign <;> cases other <;> rfl
    | _ => rfl
  | zero sign =>
    cases second with
    | zero other => cases sign <;> cases other <;> rfl
    | _ => rfl
  | finite sign m e positive =>
    cases second with
    | finite other m' e' positive' =>
      simp only [add]
      rw [min_comm, Int.add_comm]
    | _ => rfl

instance instCommutativeAdd : Std.Commutative (α := Float) (· + ·) where
  comm first second := congrArg (fun result => Float.ofModel (.pack result))
    (sum_comm first.toModel.unpack second.toModel.unpack)

/-! ## The laws of densities -/

variable {value scale density : Float}

/-- A number not below zero that is finite. -/
theorem finite_cases (isFinite : Scalar.isFinite value = true) (nonneg : Scalar.zero ≤ value) :
    (∃ sign, unpacked value = .zero sign) ∨
      ∃ m e positive, unpacked value = .finite .positive m e positive := by
  have isNumber : (unpacked value).isFinite = true := isFinite
  rcases nonneg_cases ((zero_le_iff value).mp nonneg) with same | isZero | isPositive
  · rw [same] at isNumber
    cases isNumber
  · exact Or.inl isZero
  · exact Or.inr isPositive

/-- A density is zero, or its mantissa and exponent are those of a number up to one. -/
theorem moderate_cases (moderate : Moderate density) :
    (∃ sign, unpacked density = .zero sign) ∨
      ∃ m e positive, unpacked density = .finite .positive m e positive ∧
        (e < -52 ∨ e = -52 ∧ m ≤ 2 ^ 52) := by
  have below := (le_iff density Scalar.one).mp moderate.2
  rw [unpacked_one] at below
  rcases nonneg_cases ((zero_le_iff density).mp moderate.1) with same | isZero |
    ⟨m, e, positive, same⟩
  · rw [same] at below
    cases below
  · exact Or.inl isZero
  · refine Or.inr ⟨m, e, positive, same, ?_⟩
    rw [same] at below
    simp only [UnpackedFloat.le, UnpackedFloat.compare, Option.any_some] at below
    rcases lt_trichotomy e (-52) with less | equal | greater
    · exact Or.inl less
    · refine Or.inr ⟨equal, ?_⟩
      by_contra more
      rw [compare_eq_iff_eq.mpr equal, compare_gt_iff_gt.mpr (not_le.mp more)] at below
      cases below
    · rw [compare_gt_iff_gt.mpr greater] at below
      cases below

/-- Raising a density never overflows what it scales. -/
theorem unpacked_product (isFinite : Scalar.isFinite scale = true)
    (nonneg : Scalar.zero ≤ scale) (moderate : Moderate density) :
    (∃ sign, unpacked (scale * density) = .zero sign) ∨
      ∃ m e positive, unpacked (scale * density) = .finite .positive m e positive := by
  rw [unpacked_mul]
  rcases finite_cases isFinite nonneg with ⟨sign, isZero⟩ | ⟨m, e, positive, isScale⟩
  · rcases moderate_cases moderate with ⟨other, same⟩ | ⟨m', e', positive', same, -⟩
    · rw [isZero, same]
      exact Or.inl ⟨_, stored_zero _⟩
    · rw [isZero, same]
      exact Or.inl ⟨_, stored_zero _⟩
  · rcases moderate_cases moderate with ⟨other, same⟩ | ⟨m', e', positive', same, small⟩
    · rw [isScale, same]
      exact Or.inl ⟨_, stored_zero _⟩
    · rcases bounds_of_unpacked isScale with ⟨short, -, upper⟩
      rcases bounds_of_unpacked same with ⟨short', -, -⟩
      have bounded : m * m' < (2 ^ 54 - 1) * 2 ^ (970 - (e + e')).toNat := by
        rcases small with less | ⟨equal, most⟩
        · have product : m * m' ≤ (2 ^ 53 - 1) * (2 ^ 53 - 1) :=
            Nat.mul_le_mul (by omega) (by omega)
          have scaled : 2 ^ 52 ≤ 2 ^ (970 - (e + e')).toNat :=
            Nat.pow_le_pow_right (by decide) (by omega)
          omega
        · have product : m * m' ≤ (2 ^ 53 - 1) * 2 ^ 52 := Nat.mul_le_mul (by omega) most
          have scaled : 2 ^ 51 ≤ 2 ^ (970 - (e + e')).toNat :=
            Nat.pow_le_pow_right (by decide) (by omega)
          omega
      rw [isScale, same, mul]
      rcases stored_rounded .positive (by omega) bounded with none | some
      · exact Or.inl ⟨_, none⟩
      · exact Or.inr some

/-- A mantissa of 53 bits or more needs no further bits. -/
theorem round_long (sign : Sign) {m : Nat} {e : Int} (long : 2 ^ 52 ≤ m) :
    UnpackedFloat.round Format.binary64 sign m e =
      roundWithAccuracy Format.binary64 sign m e .exact := by
  have bits : 52 ≤ m.log2 := (Nat.le_log2 (by omega)).mpr long
  have none : (e - Format.binary64.targetExponent (totalExponent m e)).toNat = 0 := by
    rw [targetExponent_eq, totalExponent]
    omega
  unfold UnpackedFloat.round decreaseExponent
  dsimp only
  rw [none, Nat.shiftLeft_zero, Int.natCast_zero, Int.sub_zero]

/-- One more than a finite number not below zero is finite and above zero. -/
theorem unpacked_one_add
    (isNumber : (∃ sign, unpacked value = .zero sign) ∨
      ∃ m e positive, unpacked value = .finite .positive m e positive) :
    ∃ m e positive, unpacked (Scalar.one + value) = .finite .positive m e positive := by
  rw [unpacked_add, unpacked_one]
  rcases isNumber with ⟨sign, isZero⟩ | ⟨m, e, positive, same⟩
  · have same : stored (.finite .positive (2 ^ 52) (-52) (by decide)) =
        .finite .positive (2 ^ 52) (-52) (by decide) := rfl
    rw [isZero]
    exact ⟨_, _, _, same⟩
  · rcases bounds_of_unpacked same with ⟨short, lower, upper⟩
    have long : 2 ^ 52 ≤ 2 ^ 52 * 2 ^ (-52 - min (-52) e).toNat + m * 2 ^ (e - min (-52) e).toNat :=
      (Nat.le_mul_of_pos_right _ (Nat.two_pow_pos _)).trans (Nat.le_add_right _ _)
    have bounded : 2 ^ 52 * 2 ^ (-52 - min (-52) e).toNat + m * 2 ^ (e - min (-52) e).toNat <
        (2 ^ 54 - 1) * 2 ^ (970 - min (-52) e).toNat := by
      have shifted : 2 ^ ((-52 - min (-52) e).toNat + 53) ≤ 2 ^ (970 - min (-52) e).toNat :=
        Nat.pow_le_pow_right (by decide) (by omega)
      have scaled : m * 2 ^ (e - min (-52) e).toNat ≤
          (2 ^ 53 - 1) * 2 ^ ((970 - min (-52) e).toNat + 1) :=
        Nat.mul_le_mul (by omega) (Nat.pow_le_pow_right (by decide) (by omega))
      rw [Nat.pow_add] at shifted
      rw [Nat.pow_succ] at scaled
      have positive : 0 < 2 ^ (970 - min (-52) e).toNat := Nat.two_pow_pos _
      omega
    rw [same, add_positive, round_long .positive long]
    exact stored_normal .positive (by omega) bounded long (by omega)

/-! ## The laws -/

/-- Growth that is not below zero is zero or above, where a sum with it is a number at all. -/
theorem nonneg_growth {density growth : Float} (grows : ¬ growth < Scalar.zero)
    (below : density + growth < Scalar.one) : Nonneg (unpacked growth) := by
  rw [lt_iff, unpacked_zero] at grows
  rw [lt_iff, unpacked_add] at below
  rcases nonneg_of_not_lt grows with nonneg | undefined
  · exact nonneg
  · have isUndefined : ∀ value : UnpackedFloat,
        add Format.binary64 value .notANumber = .notANumber := by
      rintro (_ | _ | _ | _) <;> rfl
    rw [undefined, isUndefined] at below
    exact absurd below (by decide +kernel)

/-- Growth that is not below zero leaves a density above zero, where the sum is a number at all. -/
theorem nonneg_of_grown {density growth : Float} (nonneg : Scalar.zero ≤ density)
    (grows : ¬ growth < Scalar.zero) (below : density + growth < Scalar.one) :
    Scalar.zero ≤ density + growth := by
  rw [zero_le_iff] at nonneg ⊢
  rw [unpacked_add]
  exact nonneg_stored (nonneg_add nonneg (nonneg_growth grows below))

/-- A finite scale times a density, and one more, is finite and above zero. -/
theorem isFactor_one_add {scale density : Float} (isFinite : Scalar.isFinite scale = true)
    (nonneg : Scalar.zero ≤ scale) (moderate : Moderate density) :
    Scalar.isFactor (Scalar.one + scale * density) = true := by
  rcases unpacked_one_add (unpacked_product isFinite nonneg moderate) with ⟨m, e, positive, same⟩
  have isNumber : Scalar.isFinite (Scalar.one + scale * density) = true :=
    (congrArg UnpackedFloat.isFinite same).trans rfl
  have above : Scalar.zero < Scalar.one + scale * density := by
    rw [lt_iff, unpacked_zero, same]
    rfl
  exact Bool.and_eq_true_iff.mpr ⟨isNumber, decide_eq_true above⟩

/-- A finite scale times zero adds nothing to one. -/
theorem one_add_mul_zero {scale : Float} (isFinite : Scalar.isFinite scale = true)
    (nonneg : Scalar.zero ≤ scale) : Scalar.one + scale * Scalar.zero = Scalar.one := by
  have product : ∃ sign, unpacked (scale * Scalar.zero) = .zero sign := by
    rw [unpacked_mul, unpacked_zero]
    rcases finite_cases isFinite nonneg with ⟨sign, same⟩ | ⟨m, e, positive, same⟩
    · rw [same]
      exact ⟨_, stored_zero _⟩
    · rw [same]
      exact ⟨_, stored_zero _⟩
  rcases product with ⟨sign, isZero⟩
  have sum : Scalar.one + scale * Scalar.zero = Float.ofModel (.pack
      (add Format.binary64 (unpacked Scalar.one) (unpacked (scale * Scalar.zero)))) := rfl
  rw [sum, isZero, unpacked_one]
  change Float.ofModel (.pack (.finite .positive (2 ^ 52) (-52) (by decide))) = Scalar.one
  decide +kernel

instance : LawfulDensities Float where
  isFactor_one := by decide +kernel
  moderate_zero := by constructor <;> decide +kernel
  moderate_one := by constructor <;> decide +kernel
  le_of_lt := by
    intro density below
    rw [lt_iff] at below
    rw [le_iff, UnpackedFloat.le, beq_iff_eq.mp below]
    rfl
  nonneg_of_lt := by
    intro density other nonneg less
    rw [zero_le_iff] at nonneg ⊢
    exact nonneg_of_lt nonneg ((lt_iff density other).mp less)
  nonneg_add moderate := nonneg_of_grown moderate.1
  isFactor_smoke := isFactor_one_add
  factor_clear := one_add_mul_zero

/-! ## Chances -/

/-- What lies below a finite number above zero lies below all that are no smaller. -/
theorem lt_of_lt_of_le {value chance : UnpackedFloat} {m : Nat} {e : Int} {positive : 0 < m}
    (below : value.lt (.finite .positive m e positive) = true)
    (least : UnpackedFloat.le (.finite .positive m e positive) chance = true) :
    value.lt chance = true := by
  rcases chance with (_ | _) | _ | _ | ⟨_ | _, m', e', positive'⟩
  · cases least
  · rcases value with (_ | _) | _ | _ | ⟨_ | _, m', e', positive'⟩ <;> first | rfl | cases below
  · cases least
  · cases least
  · cases least
  · rcases value with (_ | _) | _ | _ | ⟨_ | _, m'', e'', positive''⟩
    · rfl
    · cases below
    · cases below
    · rfl
    · rfl
    · have lexicographic : ∀ {e e' : Int} {m m' : Nat},
          (compare e e').then (compare m m') = .lt ↔ e < e' ∨ e = e' ∧ m < m' := by
        intro e e' m m'
        rw [Ordering.then_eq_lt, compare_lt_iff_lt, compare_eq_iff_eq, compare_lt_iff_lt]
      have reverse : (compare e e').then (compare m m') ≠ .gt := by
        intro greater
        simp [UnpackedFloat.le, UnpackedFloat.compare, greater] at least
      have after : ¬ (e' < e ∨ e' = e ∧ m' < m) := by
        rw [← lexicographic]
        intro less
        apply reverse
        rw [← Ordering.swap_eq_lt, Ordering.swap_then, Int.compare_swap, Nat.compare_swap]
        exact less
      have before := lexicographic.mp (beq_iff_eq.mp below |> Option.some.inj)
      exact beq_iff_eq.mpr (congrArg some (lexicographic.mpr (by omega)))

/-- Nothing that is zero or more lies below a number that is zero or less. -/
theorem not_lt_of_le_zero {value chance : UnpackedFloat} (nonneg : Nonneg value)
    (most : chance.le (.zero .positive) = true) : ¬ value.lt chance = true := by
  intro less
  rcases nonneg_cases nonneg with rfl | ⟨sign, rfl⟩ | ⟨m, e, positive, rfl⟩ <;>
    rcases chance with (_ | _) | _ | _ | ⟨_ | _, m', e', positive'⟩ <;>
    first | (cases most; done) | cases less

instance : LawfulChances Float where
  lt_of_one_le := by
    intro value chance below least
    rw [lt_iff] at below ⊢
    rw [le_iff] at least
    rw [unpacked_one] at below least
    exact lt_of_lt_of_le below least
  not_lt_of_le_zero := by
    intro value chance nonneg most
    rw [zero_le_iff] at nonneg
    rw [le_iff, unpacked_zero] at most
    rw [lt_iff]
    exact not_lt_of_le_zero nonneg most

end Egress.Doubles
