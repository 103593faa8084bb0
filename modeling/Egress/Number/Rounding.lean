/-!
# Rounding quotients

Quotients of natural numbers are rounded to the nearest integer, a half going to the even
neighbour.  Everything here is exact integer arithmetic; `nearest` says what the rounding means:
the result is never further than half a unit away.
-/

namespace Egress.Number

/-- The nearest integer to `num / den`; a half goes to the even neighbour. -/
def roundQuotient (num den : Nat) : Nat :=
  let floor := num / den
  let twice := 2 * (num % den)
  if twice < den then floor
  else if den < twice then floor + 1
  else if floor % 2 = 0 then floor
  else floor + 1

theorem roundQuotient_within_half (num den : Nat) (positive : 0 < den) :
    2 * num ≤ 2 * (roundQuotient num den * den) + den ∧
      2 * (roundQuotient num den * den) ≤ 2 * num + den := by
  have split := Nat.div_add_mod num den
  have small := Nat.mod_lt num positive
  have product : num / den * den = den * (num / den) := Nat.mul_comm _ _
  have next : (num / den + 1) * den = den * (num / den) + den := by
    rw [Nat.add_mul, Nat.one_mul, product]
  unfold roundQuotient
  simp only []
  split
  · rw [product]
    omega
  · split
    · rw [next]
      omega
    · split
      · rw [product]
        omega
      · rw [next]
        omega

/-- `num / den · base ^ shift` as a quotient of natural numbers. -/
def scale (base : Nat) (num den : Nat) (shift : Int) : Nat × Nat :=
  match shift with
  | .ofNat up => (num * Nat.pow base up, den)
  | .negSucc down => (num, den * Nat.pow base (down + 1))

/-- The exponent of the leading binary digit of `num / den`, for positive arguments. -/
def binade (num den : Nat) : Int :=
  let guess : Int := (num.log2 : Int) - den.log2
  let (n, d) := scale 2 num den (-guess)
  if n < d then guess - 1 else guess

/-- Move a guess for the leading decimal place up while a higher place still fits. -/
def climbDecade (num den : Nat) : Nat → Int → Int
  | 0, guess => guess
  | steps + 1, guess =>
    let (n, d) := scale 10 num den (-(guess + 1))
    if d ≤ n then climbDecade num den steps (guess + 1) else guess

/-- The exponent of the leading decimal digit of `num / den`, for positive arguments.  The binary
exponent gives it to within a few places from below. -/
def decade (num den : Nat) : Int :=
  climbDecade num den 4 ((binade num den * 30103).fdiv 100000 - 2)

end Egress.Number
