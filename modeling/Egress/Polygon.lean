import Egress.Contact
import Egress.Number.Hypotenuse
import Egress.Plane
import Egress.Ring

/-!
# Polygons with double coordinates

A polygon keeps its points as they were given and, beside them, the exact ring through them.
Whether it is simple, whether it covers a point and how much area it shares with another polygon are
decided on the exact ring.  Where two polygons touch is found on the points as they were given.
Measurements are sums of doubles in a fixed order: the area by the trapezoids to the left of the
first corner, the centre by the triangles from the first corner, and the middle of a contact by its
segments, weighted by length.
-/

namespace Egress

structure Polygon where
  /-- The points, the first one repeated at the end. -/
  points : List (Point Float)
  ring : Ring
  deriving Inhabited

namespace Polygon

def exactPoint (point : Point Float) : Point Rat := point.map Number.exact

def isFinitePoint (point : Point Float) : Bool := point.x.isFinite && point.y.isFinite

/-- Repeat the first point at the end if it is not there already. -/
def close (points : List (Point Float)) : List (Point Float) :=
  match points, points.getLast? with
  | first :: _, some last =>
    if exactPoint first = exactPoint last && 1 < points.length then points else points ++ [first]
  | _, _ => points

def ofPoints (points : List (Point Float)) : Except OutlineFlaw Polygon :=
  if points.length = 1 ∨ points.length = 2 then .error .tooFewPoints
  else if points.all isFinitePoint then
    let ring := Ring.ofPoints (points.map exactPoint)
    if ring.isSimple then .ok ⟨close points, ring⟩ else .error .notSimple
  else .error .notSimple

/-- The sum of the trapezoids between the sides and the vertical line through the first corner, each
counted at a corner: its distance from the line times the height between its neighbours. -/
def trapezoids (origin : Float) : List (Point Float) → Float → Float
  | before :: corner :: after :: rest, sum =>
    trapezoids origin (corner :: after :: rest) (sum + (corner.x - origin) * (before.y - after.y))
  | _, sum => sum

def area (polygon : Polygon) : Float :=
  match polygon.points with
  | [] => 0
  | first :: _ => (trapezoids first.x polygon.points 0 / 2).abs

/-- Sums over the triangles from a base point to the sides: the moments and twice the area. -/
structure Moments where
  x : Float
  y : Float
  doubleArea : Float

/-- Add the triangles from a base point to the sides of a chain. -/
def addTriangles (base : Point Float) : List (Point Float) → Moments → Moments
  | a :: b :: rest, sums =>
    let twice := (a.x - base.x) * (b.y - base.y) - (b.x - base.x) * (a.y - base.y)
    addTriangles base (b :: rest)
      { x := sums.x + twice * (base.x + a.x + b.x)
        y := sums.y + twice * (base.y + a.y + b.y)
        doubleArea := sums.doubleArea + twice }
  | _, sums => sums

def centre (polygon : Polygon) : Point Float :=
  match polygon.points with
  | [] => ⟨0, 0⟩
  | base :: _ =>
    let sums := addTriangles base polygon.points ⟨0, 0, 0⟩
    ⟨sums.x / 3 / sums.doubleArea, sums.y / 3 / sums.doubleArea⟩

def covers (polygon : Polygon) (point : Point Float) : Bool :=
  isFinitePoint point && polygon.ring.covers (exactPoint point)

/-- The smallest box around a polygon.  Its corners are among the coordinates of the points, so
nothing is rounded. -/
def box (polygon : Polygon) : Box Float :=
  match polygon.points with
  | [] => ⟨⟨0, 0⟩, ⟨0, 0⟩⟩
  | first :: others => Box.around first others

/-- Whether the boxes around two polygons have a point in common. -/
def near (first second : Polygon) : Bool := (box first).meets (box second)

def sharedArea (first second : Polygon) : Float :=
  if near first second then Number.nearest (first.ring.sharedArea second.ring) else 0

/-- The segments along which two polygons touch. -/
def contact (first second : Polygon) : List Segment :=
  if near first second then Contact.between first.points second.points else []

def contactLength (first second : Polygon) : Float :=
  (contact first second).foldl (fun sum segment => sum + segment.length) 0

def contactCentre (first second : Polygon) : Point Float :=
  let sums := (contact first second).foldl (fun (sums : Moments) segment =>
    { x := sums.x + segment.length * segment.middle.x
      y := sums.y + segment.length * segment.middle.y
      doubleArea := sums.doubleArea + segment.length }) ⟨0, 0, 0⟩
  ⟨sums.x / sums.doubleArea, sums.y / sums.doubleArea⟩

/-- The distance of two points. -/
def distance (first second : Point Float) : Float :=
  Number.hypotenuse (first.x - second.x) (first.y - second.y)

instance : Metric Float := ⟨distance⟩

instance : Outline Polygon Float where
  ofPoints := ofPoints
  vertices polygon := polygon.points
  area := area
  centre := centre
  box := box
  covers := covers
  sharedArea := sharedArea
  contactLength := contactLength
  contactCentre := contactCentre

end Polygon

end Egress
