import Egress.Point
import Egress.Scalar

/-!
# Rings of exact points

A ring is a closed chain of straight sides between exact rational points.  Every question here is
answered without rounding: whether a ring is simple, which points it covers, and how much area two
rings share.

A ring is simple if it has at least three sides, no two neighbouring sides fold back onto each
other, and no two other sides have a point in common.
-/

namespace Egress

/-- A directed segment between exact points. -/
structure Side where
  start : Point Rat
  stop : Point Rat
  deriving Repr, DecidableEq, Inhabited

namespace Side

/-- Twice the signed area of the triangle from a side to a point: positive to the left of the side,
zero on its line. -/
def turn (side : Side) (point : Point Rat) : Rat :=
  (side.stop.x - side.start.x) * (point.y - side.start.y) -
    (side.stop.y - side.start.y) * (point.x - side.start.x)

/-- Whether a number lies between two others, ends included. -/
def between (value first second : Rat) : Bool :=
  (decide (first ≤ value) && decide (value ≤ second)) ||
    (decide (second ≤ value) && decide (value ≤ first))

/-- Whether a point lies on a side. -/
def contains (side : Side) (point : Point Rat) : Bool :=
  side.turn point == 0 && between point.x side.start.x side.stop.x &&
    between point.y side.start.y side.stop.y

/-- Whether two numbers lie on different sides of zero. -/
def opposed (first second : Rat) : Bool :=
  (decide (first < 0) && decide (0 < second)) || (decide (0 < first) && decide (second < 0))

/-- Whether two intervals have no number in common; the ends of each are in any order. -/
def apart (a b c d : Rat) : Bool :=
  if a < b then (decide (c < a) && decide (d < a)) || (decide (b < c) && decide (b < d))
  else (decide (c < b) && decide (d < b)) || (decide (a < c) && decide (a < d))

/-- Whether the upright boxes around two sides have no point in common. -/
def boxesApart (first second : Side) : Bool :=
  apart first.start.x first.stop.x second.start.x second.stop.x ||
    apart first.start.y first.stop.y second.start.y second.stop.y

/-- Whether two sides have a point in common. -/
def meets (first second : Side) : Bool :=
  !boxesApart first second && (first.contains second.start || first.contains second.stop ||
    second.contains first.start || second.contains first.stop ||
    (opposed (first.turn second.start) (first.turn second.stop) &&
      opposed (second.turn first.start) (second.turn first.stop)))

/-- Whether a side turns straight back at its end onto the next one. -/
def foldsBack (first second : Side) : Bool :=
  first.turn second.stop == 0 &&
    decide ((first.start.x - first.stop.x) * (second.stop.x - second.start.x) +
      (first.start.y - first.stop.y) * (second.stop.y - second.start.y) > 0)

/-- The height of a side that is not vertical above a place. -/
def heightAt (side : Side) (x : Rat) : Rat :=
  side.start.y + (side.stop.y - side.start.y) * ((x - side.start.x) / (side.stop.x - side.start.x))

/-- The integral of the lower of two sides between two places. -/
def integrateLower (first second : Side) (left right : Rat) : Rat :=
  let a := first.heightAt left
  let b := second.heightAt left
  let c := first.heightAt right
  let d := second.heightAt right
  let width := right - left
  let trapezoid (u v width : Rat) : Rat := (u + v) / 2 * width
  if opposed (a - b) (c - d) then
    -- the sides cross, after this part of the width
    let part := (a - b) / ((a - b) - (c - d))
    let middle := a + (c - a) * part
    trapezoid (Scalar.smaller a b) middle (width * part) +
      trapezoid middle (Scalar.smaller c d) (width * (1 - part))
  else trapezoid (Scalar.smaller a b) (Scalar.smaller c d) width

/-- The signed area under both of two sides: negative if they run in opposite directions. -/
def areaUnder (first second : Side) : Rat :=
  let left := Scalar.larger (Scalar.smaller first.start.x first.stop.x)
    (Scalar.smaller second.start.x second.stop.x)
  let right := Scalar.smaller (Scalar.larger first.start.x first.stop.x)
    (Scalar.larger second.start.x second.stop.x)
  if right ≤ left then 0
  else
    let area := integrateLower first second left right
    if decide (first.start.x < first.stop.x) == decide (second.start.x < second.stop.x) then area
    else -area

/-- Whether a side crosses the ray from a point to the right. -/
def crossesRay (side : Side) (point : Point Rat) : Bool :=
  if side.start.y ≤ point.y ∧ point.y < side.stop.y then decide (0 < side.turn point)
  else if side.stop.y ≤ point.y ∧ point.y < side.start.y then decide (side.turn point < 0)
  else false

end Side

/-- The corners of a closed chain, each followed by the next and the last by the first. -/
abbrev Ring := List (Point Rat)

namespace Ring

/-- Leave out corners that repeat the one before. -/
def dropRepeats : List (Point Rat) → List (Point Rat)
  | [] => []
  | [point] => [point]
  | point :: next :: rest =>
    if point = next then dropRepeats (next :: rest) else point :: dropRepeats (next :: rest)

/-- The ring through points in order, of which neighbours may coincide and the last may repeat the
first. -/
def ofPoints (points : List (Point Rat)) : Ring :=
  let corners := dropRepeats points
  match corners with
  | first :: _ :: _ => if corners.getLast? = some first then corners.dropLast else corners
  | _ => corners

def sidesFrom (first : Point Rat) : List (Point Rat) → List Side
  | [] => []
  | [last] => [⟨last, first⟩]
  | point :: next :: rest => ⟨point, next⟩ :: sidesFrom first (next :: rest)

def sides (ring : Ring) : List Side :=
  match ring with
  | [] => []
  | first :: _ => sidesFrom first ring

/-- The sum of a list, from left to right. -/
def total (terms : List Rat) : Rat := terms.foldl (fun sum term => sum + term) 0

/-- Twice the signed area: positive for a ring that runs counterclockwise. -/
def doubleArea (ring : Ring) : Rat :=
  total (ring.sides.map fun side => side.start.x * side.stop.y - side.stop.x * side.start.y)

/-- Whether no later side comes back to a side, apart from the next one, which begins where it ends,
and in the case of the very first side the last one, which ends where it begins. -/
def clear (first : Side) (rest : List Side) (opening : Bool) : Bool :=
  match rest with
  | [] => true
  | next :: later =>
    !first.foldsBack next &&
      if opening then
        later.dropLast.all (fun side => !first.meets side) &&
          later.getLast?.all fun side => !side.foldsBack first
      else later.all fun side => !first.meets side

def clearAll : List Side → Bool → Bool
  | [], _ => true
  | side :: rest, opening => clear side rest opening && clearAll rest false

def isSimple (ring : Ring) : Bool :=
  decide (3 ≤ ring.length) && clearAll ring.sides true

/-- Whether a simple ring has a point inside or on its boundary. -/
def covers (ring : Ring) (point : Point Rat) : Bool :=
  ring.sides.any (fun side => side.contains point) ||
    (ring.sides.countP fun side => side.crossesRay point) % 2 == 1

/-- The area that two simple rings share.  Under each ring lies the signed sum of the areas under
its sides, and under both the signed sum over pairs of sides. -/
def sharedArea (first second : Ring) : Rat :=
  let under := total (first.sides.map fun side =>
    total (second.sides.map fun other => side.areaUnder other))
  if decide (0 < first.doubleArea) == decide (0 < second.doubleArea) then under else -under

end Ring

end Egress
