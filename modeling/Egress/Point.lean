/-!
# Points of a floor plan
-/

namespace Egress

/-- A position on a floor plan, in metres. -/
structure Point (α : Type) where
  x : α
  y : α
  deriving Repr, DecidableEq, Inhabited

namespace Point

/-- Apply one function to both coordinates. -/
def map {α β : Type} (change : α → β) (point : Point α) : Point β :=
  ⟨change point.x, change point.y⟩

end Point

end Egress
