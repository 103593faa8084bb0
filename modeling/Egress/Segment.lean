import Egress.Number.Pair
import Egress.Point

/-!
# Segments between points of doubles

Where two segments meet: at ends, at a point in the middle of both, or along a stretch.  Whether
they meet is decided with enough digits to be right; a point in the middle of both is rounded to
doubles and therefore need not lie on either of them.
-/

namespace Egress

/-- Whether two points have equal coordinates. -/
def Point.coincides (first second : Point Float) : Bool :=
  first.x == second.x && first.y == second.y

/-- Reading order of points: from left to right, and upwards on a vertical. -/
def Point.precedes (first second : Point Float) : Bool :=
  decide (first.x < second.x) || (first.x == second.x && decide (first.y < second.y))

/-- The distance of two points by the root of the sum of squares. -/
def Point.gap (first second : Point Float) : Float :=
  let dx := first.x - second.x
  let dy := first.y - second.y
  (dx * dx + dy * dy).sqrt

/-- A straight segment. -/
structure Segment where
  start : Point Float
  stop : Point Float
  deriving Inhabited

namespace Segment

def length (segment : Segment) : Float := segment.start.gap segment.stop

def middle (segment : Segment) : Point Float :=
  ⟨(segment.start.x + segment.stop.x) / 2, (segment.start.y + segment.stop.y) / 2⟩

/-- The segment in reading order of its ends. -/
def forward (segment : Segment) : Segment :=
  if segment.stop.precedes segment.start then ⟨segment.stop, segment.start⟩ else segment

def coincides (first second : Segment) : Bool :=
  first.start.coincides second.start && first.stop.coincides second.stop

/-- Reading order of segments. -/
def precedes (first second : Segment) : Bool :=
  first.start.precedes second.start ||
    (first.start.coincides second.start && first.stop.precedes second.stop)

def hasEnd (segment : Segment) (point : Point Float) : Bool :=
  point.coincides segment.start || point.coincides segment.stop

/-- Whether a number lies between two others, ends included. -/
def within (value first second : Float) : Bool :=
  (decide (first ≤ value) && decide (value ≤ second)) ||
    (decide (second ≤ value) && decide (value ≤ first))

/-- Whether a point lies in the upright box around a segment. -/
def boxContains (segment : Segment) (point : Point Float) : Bool :=
  within point.x segment.start.x segment.stop.x && within point.y segment.start.y segment.stop.y

/-- Whether two intervals have a number in common; the ends of each are in any order. -/
def intervalsMeet (a b c d : Float) : Bool :=
  within a c d || within b c d || within c a b || within d a b

/-- Whether the upright boxes around two segments have a point in common. -/
def boxesMeet (first second : Segment) : Bool :=
  intervalsMeet first.start.x first.stop.x second.start.x second.stop.x &&
    intervalsMeet first.start.y first.stop.y second.start.y second.stop.y

/-- The order of a number to zero. -/
def signOf (value : Float) : Ordering :=
  if value < 0 then .lt else if 0 < value then .gt else .eq

/-- On which side of the line through a segment a point lies: `gt` is the left side.  A determinant
of doubles decides it unless it is too small for its sign to be certain. -/
def turn (segment : Segment) (point : Point Float) : Ordering :=
  let left := (segment.start.x - point.x) * (segment.stop.y - point.y)
  let right := (segment.start.y - point.y) * (segment.stop.x - point.x)
  if (left + right).abs * 1e-15 ≤ (left - right).abs then signOf (left - right)
  else
    let along := Number.Pair.sum segment.stop.x (-segment.start.x)
    let rise := Number.Pair.sum segment.stop.y (-segment.start.y)
    let run := Number.Pair.sum point.x (-segment.stop.x)
    let height := Number.Pair.sum point.y (-segment.stop.y)
    ((along.mul height).sub (rise.mul run)).sign

/-- The distance of a point from the nearest point of a segment. -/
def distanceTo (segment : Segment) (point : Point Float) : Float :=
  let dx := segment.stop.x - segment.start.x
  let dy := segment.stop.y - segment.start.y
  let square := dx * dx + dy * dy
  if segment.start.coincides segment.stop then point.gap segment.start
  else
    let part := ((point.x - segment.start.x) * dx + (point.y - segment.start.y) * dy) / square
    if part ≤ 0 then point.gap segment.start
    else if 1 ≤ part then point.gap segment.stop
    else
      let height := ((segment.start.y - point.y) * dx - (segment.start.x - point.x) * dy) / square
      height.abs * square.sqrt

/-- The coefficients of a line: where `x · X + y · Y + w` is zero. -/
structure Line where
  x : Number.Pair
  y : Number.Pair
  w : Number.Pair

/-- The line through the ends of a segment. -/
def line (segment : Segment) : Line :=
  let startX := Number.Pair.ofFloat segment.start.x
  let startY := Number.Pair.ofFloat segment.start.y
  let stopX := Number.Pair.ofFloat segment.stop.x
  let stopY := Number.Pair.ofFloat segment.stop.y
  ⟨startY.sub stopY, stopX.sub startX, (startX.mul stopY).sub (stopX.mul startY)⟩

/-- The point at which two lines cross, unless they are parallel. -/
def crossing? (first second : Line) : Option (Point Float) :=
  let x := (first.y.mul second.w).sub (second.y.mul first.w)
  let y := (second.x.mul first.w).sub (first.x.mul second.w)
  let w := (first.x.mul second.y).sub (second.x.mul first.y)
  let point : Point Float := ⟨(x.div w).value, (y.div w).value⟩
  if point.x.isFinite && point.y.isFinite then some point else none

/-- Of the ends of two segments, the one that is nearest to the other segment. -/
def nearestEnd (first second : Segment) : Point Float :=
  let candidates := [(first.stop, second.distanceTo first.stop),
    (second.start, first.distanceTo second.start), (second.stop, first.distanceTo second.stop)]
  (candidates.foldl (fun best other => if other.2 < best.2 then other else best)
    (first.start, second.distanceTo first.start)).1

/-- A point for two segments that cross in the middle: where their lines cross, if rounding leaves
that point inside the boxes of both, and otherwise an end that is close by. -/
def innerCrossing (first second : Segment) : Point Float :=
  match crossing? first.line second.line with
  | some point =>
    if first.boxContains point && second.boxContains point then point
    else nearestEnd first second
  | none => nearestEnd first second

/-- The ends of the stretch that two segments on one line have in common. -/
def sharedStretch (first second : Segment) : List (Point Float) :=
  let ofSecond := [second.start, second.stop].filter first.boxContains
  let ofFirst := [first.start, first.stop].filter second.boxContains
  match ofSecond, ofFirst with
  | [a, b], _ => [a, b]
  | _, [a, b] => [a, b]
  | [a], [b] => if a.coincides b then [a] else [a, b]
  | _, _ => []

/-- The points at which two segments meet: none, one, or the two ends of a shared stretch. -/
def meeting (first second : Segment) : List (Point Float) :=
  if !boxesMeet first second then []
  else
    let a := first.turn second.start
    let b := first.turn second.stop
    let c := second.turn first.start
    let d := second.turn first.stop
    if (a == b && a != .eq) || (c == d && c != .eq) then []
    else if [a, b, c, d].all (· == .eq) then sharedStretch first second
    else if [a, b, c, d].all (· != .eq) then [innerCrossing first second]
    else if second.hasEnd first.start then [first.start]
    else if second.hasEnd first.stop then [first.stop]
    else if a == .eq then [second.start]
    else if b == .eq then [second.stop]
    else if c == .eq then [first.start]
    else [first.stop]

/-- Whether one point comes before another along a segment, judged by the coordinate in which the
segment advances more, and only in a tie by the other one. -/
def reachesFirst (segment : Segment) (first second : Point Float) : Bool :=
  let dx := segment.stop.x - segment.start.x
  let dy := segment.stop.y - segment.start.y
  let ahead (advance first second : Float) : Bool :=
    if advance < 0 then decide (second < first) else decide (first < second)
  if dy.abs ≤ dx.abs then
    ahead dx first.x second.x || (first.x == second.x && ahead dy first.y second.y)
  else ahead dy first.y second.y || (first.y == second.y && ahead dx first.x second.x)

end Segment

end Egress
