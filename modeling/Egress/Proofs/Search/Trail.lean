import Egress.Proofs.Costs
import Egress.Proofs.Heap
import Egress.Search

/-!
# Trails and the order of waiting

A trail is a way through a weighted graph that is given by the arcs leaving each region.  It lists
the regions passed, the latest first, and comes with its total, added up from the start.  The least
costs that a search finds are compared with the totals of all trails.

Regions wait in the order of their costs, and of their arrival where the costs are equal.  As long
as the costs are sums of weights, this is an order in which a heap can be kept.
-/

namespace Egress.Search

variable {α : Type} [Scalar α]

/-- Ways from a start, the latest region first, with their totals. -/
inductive Trail (next : Int → List (Int × α)) (start : Int) : List Int → α → Prop
  | start : Trail next start [start] Scalar.zero
  | step {region : Int} {back : List Int} {cost : α} {arc : Int × α} :
      Trail next start (region :: back) cost → arc ∈ next region →
      Trail next start (arc.1 :: region :: back) (cost + arc.2)

namespace Trail

variable {next : Int → List (Int × α)} {start : Int} {weights : α → Prop}

theorem isCost (weighted : ∀ region, ∀ arc ∈ next region, weights arc.2) {regions : List Int}
    {cost : α} (trail : Trail next start regions cost) : IsCost weights cost := by
  induction trail with
  | start => exact .zero
  | step trail arc hypothesis => exact hypothesis.add (weighted _ _ arc)

end Trail

namespace Waiting

variable {weights : α → Prop}

/-- A region does not come before another one if it is at least as expensive, and, where the costs
are equal, has not waited longer. -/
theorem before_eq_false_iff (laws : LawfulCosts weights) {first second : Waiting α}
    (sumFirst : IsCost weights first.cost) (sumSecond : IsCost weights second.cost) :
    before second first = false ↔ AtMost first.cost first.order second.cost second.order :=
  laws.test_eq_false_iff sumFirst sumSecond

/-- Waiting regions are ordered, whatever regions they are. -/
theorem precedence (laws : LawfulCosts weights) :
    Precedence (before (α := α)) fun entry => IsCost weights entry.cost :=
  .of_total (before_eq_false_iff laws) laws.atMost_total laws.atMost_trans

end Waiting

end Egress.Search
