import Egress.Number.Rounding

/-!
# Doubles as exact numbers

A double is taken apart into sign, mantissa and exponent, read as an exact rational, and made from
an exact quotient by a single rounding.  `nearest` rounds to the nearest double, a half going to the
even mantissa; magnitudes beyond the largest double become infinite.
-/

namespace Egress.Number

/-- What the bits of a double say. -/
inductive Parts where
  | undefined
  | infinite (negative : Bool)
  /-- `mantissa · 2 ^ exponent` with the sign given apart, so that both zeros are told apart. -/
  | finite (negative : Bool) (mantissa : Nat) (exponent : Int)
  deriving Repr, DecidableEq

/-- The exponent of the last place of the smallest doubles. -/
def lowestExponent : Int := -1074

def Parts.ofBits (bits : Nat) : Parts :=
  let negative := bits / Nat.pow 2 63 % 2 = 1
  let biased : Nat := bits / Nat.pow 2 52 % Nat.pow 2 11
  let fraction : Nat := bits % Nat.pow 2 52
  if biased = 2047 then
    if fraction = 0 then .infinite negative else .undefined
  else if biased = 0 then .finite negative fraction lowestExponent
  else .finite negative (Nat.pow 2 52 + fraction) (lowestExponent + (biased : Int) - 1)

def parts (value : Float) : Parts := .ofBits value.toBits.toNat

/-- The exact value of a finite double, and zero for the others. -/
def exact (value : Float) : Rat :=
  match parts value with
  | .finite negative mantissa exponent =>
    let (num, den) := scale 2 mantissa 1 exponent
    mkRat (if negative then -(num : Int) else num) den
  | _ => 0

/-- The bits of the nearest double to the positive quotient `num / den`. -/
def nearestBits (num den : Nat) : Nat :=
  if num = 0 then 0
  else
    let unit := max (binade num den - 52) lowestExponent
    let (n, d) := scale 2 num den (-unit)
    min ((unit - lowestExponent).toNat * Nat.pow 2 52 + roundQuotient n d)
      (2047 * Nat.pow 2 52)

/-- The nearest double to a rational. -/
def nearest (value : Rat) : Float :=
  let magnitude := Float.ofBits (UInt64.ofNat (nearestBits value.num.natAbs value.den))
  if value.num < 0 then -magnitude else magnitude

end Egress.Number
