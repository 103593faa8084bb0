import Egress.Proofs.Burning
import Egress.Proofs.Likeness

/-!
# The order of ignitions

Smoke that is started raises a density to a level and never lowers it, so it makes no difference in
which order some levels are written: each region comes to hold the highest, and the outbreaks that
are left cannot be told apart by anything that is asked of them later.  Blocking connections and
replacing the generator may come between the ignitions, since neither looks at smoke.
-/

namespace Egress

open Scalar

variable {α γ : Type} [Scalar α]

namespace Outbreak

open Update

variable {first second : Outbreak α γ}

/-! ## Requests -/

namespace Request

end Request

variable [RandomSource γ α] [SeededSource γ] {request : Request α γ} {outbreak : Outbreak α γ}

/-- The level to which an ignition raises a region, if it is accepted. -/
def accepted (network : Network α) (settings : Settings α) (reference : Int)
    (density : Option (Value α)) : Option α :=
  if 0 ≤ reference ∧ reference < network.size then
    match (density.getD (settings.value .firstDensity)).number? with
    | some level => if zero ≤ level ∧ level ≤ one then some level else none
    | none => none
  else none

/-- A region is raised to a level, if there is one. -/
def raised (outbreak : Outbreak α γ) (reference : Int) : Option α → Outbreak α γ
  | some level => outbreak.filled reference (larger (outbreak.present reference) level)
  | none => outbreak

/-- The answers to some requests, one after another. -/
def answers (outbreak : Outbreak α γ) :
    List (Request α γ) → List (Except (Fault α) (Option Nat))
  | [] => []
  | request :: rest => (outbreak.serve request).2 :: (outbreak.serve request).1.answers rest

end Outbreak

end Egress
