import Egress.Point
import Egress.Scalar

/-!
# Upright boxes

The smallest upright box around an outline settles most questions about the outline without a look
at the outline itself: a point outside the box is outside the outline, and outlines whose boxes are
apart have nothing in common.
-/

namespace Egress

structure Box (α : Type) where
  /-- The lower left corner. -/
  low : Point α
  /-- The upper right corner. -/
  high : Point α
  deriving Repr, Inhabited

namespace Box

variable {α : Type} [Scalar α]

/-- Enlarge a box as far as a point demands. -/
def extend (box : Box α) (point : Point α) : Box α where
  low := ⟨Scalar.smaller box.low.x point.x, Scalar.smaller box.low.y point.y⟩
  high := ⟨Scalar.larger box.high.x point.x, Scalar.larger box.high.y point.y⟩

/-- The smallest box around some points. -/
def around (first : Point α) (others : List (Point α)) : Box α :=
  others.foldl extend ⟨first, first⟩

/-- Whether a point lies in a box or on its edge. -/
def contains (box : Box α) (point : Point α) : Bool :=
  decide (box.low.x ≤ point.x) && decide (point.x ≤ box.high.x) &&
    decide (box.low.y ≤ point.y) && decide (point.y ≤ box.high.y)

/-- Whether two boxes have a point in common. -/
def meets (first second : Box α) : Bool :=
  decide (first.low.x ≤ second.high.x) && decide (second.low.x ≤ first.high.x) &&
    decide (first.low.y ≤ second.high.y) && decide (second.low.y ≤ first.high.y)

end Box

end Egress
