/-!
# The hypotenuse

The root of a sum of two squares, in doubles.  The root of the rounded sum is corrected once: what
its square has too much is written as a sum of products in which no leading digits cancel, and is
divided by twice the root.  The result is less than one unit of the last place away.  Legs whose
squares would leave the range of doubles are scaled by a power of two, and a leg that is too short
to matter is added.
-/

namespace Egress.Number

/-- The corrected root for legs whose squares are in range; the first leg is the longer one. -/
def correctedRoot (long short : Float) : Float :=
  let root := (long * long + short * short).sqrt
  let (first, second) :=
    if root ≤ 2 * short then
      let excess := root - short
      (long * (2 * excess - long), (excess - 2 * (long - short)) * excess)
    else
      let excess := root - long
      (2 * excess * (long - 2 * short), (4 * excess - short) * short + excess * excess)
  root - (first + second) / (2 * root)

/-- The power of two by which legs are scaled. -/
def legScale : Float := 1.0 / Float.ofNat (Nat.pow 2 600)

/-- Legs above this are scaled down. -/
def longLeg : Float := Float.ofNat (Nat.pow 2 511)

/-- Legs below this are scaled up. -/
def shortLeg : Float := 1.0 / Float.ofNat (Nat.pow 2 459)

/-- A leg that is shorter by this factor does not matter. -/
def negligible : Float := 1.0 / Float.ofNat (Nat.pow 2 54)

/-- The hypotenuse over two legs that are not negative, the longer one first. -/
def overLegs (long short : Float) : Float :=
  if longLeg < long then
    if short ≤ long * negligible then long + short
    else correctedRoot (long * legScale) (short * legScale) / legScale
  else if short < shortLeg then
    if short / negligible ≤ long then long + short
    else correctedRoot (long / legScale) (short / legScale) * legScale
  else if short ≤ long * negligible then long + short
  else correctedRoot long short

/-- The hypotenuse: infinite if a leg is, and otherwise undefined if one is. -/
def hypotenuse (first second : Float) : Float :=
  if first.isInf || second.isInf then 1.0 / 0.0
  else if first.isNaN || second.isNaN then first + second
  else if first.abs < second.abs then overLegs second.abs first.abs
  else overLegs first.abs second.abs

end Egress.Number
