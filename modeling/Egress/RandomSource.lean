/-!
# Sources of random numbers

Whatever needs randomness takes it from a source that is handed on from draw to draw, so a run is a
function of the source it starts with.
-/

namespace Egress

/-- Sources `γ` of numbers `α`: one draw and the source after it. -/
class RandomSource (γ α : Type) where
  draw : γ → α × γ

/-- Sources that are picked by a number, if the number is in their range. -/
class SeededSource (γ : Type) where
  ofSeed? : Int → Option γ

end Egress
