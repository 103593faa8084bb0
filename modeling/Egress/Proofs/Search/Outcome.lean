import Egress.Proofs.Search.Least
import Egress.Proofs.Search.Turns

/-!
# What a search ends with

Where costs obey the laws of costs, every full turn settles a region at its least cost.  So a search
ends with labels that lead back to the start, and with least costs: for every region if it runs to
the end, and for the goal if it stops there.
-/

namespace Egress.Search

variable {α : Type} [Scalar α]

/-- The region is labelled with the least total of all trails to it, if there is one. -/
def IsLeast (next : Int → List (Int × α)) (start : Int) (labels : Labels α) (region : Int) : Prop :=
  ∀ back cost, Trail next start (region :: back) cost →
    ∃ label, labels.find? region = some label ∧ label.cost ≤ cost

/-- What a search ends with. -/
structure Outcome (next : Int → List (Int × α)) (weights : α → Prop) (domain : Int → Prop)
    (start : Int) (goal : Option Int) (final : State α) : Prop where
  rooted : Rooted next domain start final
  summed : Summed next weights start final.labels
  least : ∀ region, goal = none ∨ goal = some region → IsLeast next start final.labels region

variable {next : Int → List (Int × α)} {weights : α → Prop} {domain : Finset Int} {start : Int}
  {state : State α}

/-- A trail has been caught up with, or a region waits that costs no more than the trail. -/
theorem caught_up_or_waits (laws : LawfulCosts weights)
    (weighted : ∀ region, ∀ arc ∈ next region, weights arc.2) {inside : Int → Prop}
    (rooted : Rooted next inside start state)
    (least : Least next weights start state.settled state) {regions : List Int} {cost : α}
    (trail : Trail next start regions cost) :
    ∀ region back, regions = region :: back →
      (region ∈ state.settled ∧ ∃ label, state.labels.find? region = some label ∧
        label.cost ≤ cost) ∨ ∃ entry ∈ state.queue, entry.cost ≤ cost := by
  induction trail with
  | start =>
    intro region back same
    cases same
    have zero : (Scalar.zero : α) ≤ Scalar.zero := laws.le_refl .zero
    rcases rooted.waits start _ rooted.origin with settled | ⟨entry, member, -, isCost⟩
    · exact Or.inl ⟨settled, _, rooted.origin, zero⟩
    · exact Or.inr ⟨entry, member, isCost ▸ zero⟩
  | @step region back cost arc trail isArc hypothesis =>
    intro last before same
    cases same
    have sumCost := trail.isCost weighted
    have isWeight := weighted region arc isArc
    rcases hypothesis region back rfl with ⟨settled, label, isLabel, lower⟩ | ⟨entry, member, lower⟩
    · rcases least.reached region settled label isLabel arc isArc with ⟨behind, isBehind, upper⟩
      have sumLabel := least.sums region label isLabel
      have sumBehind := least.sums arc.1 behind isBehind
      have within := laws.le_trans sumBehind (sumLabel.add isWeight) (sumCost.add isWeight) upper
        (laws.add_le_add sumLabel sumCost isWeight lower)
      rcases rooted.waits arc.1 behind isBehind with done | ⟨entry, member, -, isCost⟩
      · exact Or.inl ⟨done, behind, isBehind, within⟩
      · exact Or.inr ⟨entry, member, isCost ▸ within⟩
    · exact Or.inr ⟨entry, member, laws.le_trans (least.fits entry member) sumCost
        (sumCost.add isWeight) lower (laws.le_add sumCost isWeight)⟩

/-- When nothing waits any more, all trails have been caught up with. -/
theorem isLeast_of_empty (laws : LawfulCosts weights)
    (weighted : ∀ region, ∀ arc ∈ next region, weights arc.2) {inside : Int → Prop}
    (rooted : Rooted next inside start state)
    (least : Least next weights start state.settled state) (empty : state.queue.size = 0)
    (region : Int) : IsLeast next start state.labels region := by
  intro back cost trail
  rcases caught_up_or_waits laws weighted rooted least trail region back rfl with
    ⟨-, found⟩ | ⟨entry, member, -⟩
  · exact found
  · rw [Array.eq_empty_of_size_eq_zero empty] at member
    exact absurd member (Array.not_mem_empty _)

/-- When a region has its first turn, its cost is least. -/
theorem isLeast_of_popped (laws : LawfulCosts weights)
    (weighted : ∀ region, ∀ arc ∈ next region, weights arc.2) {inside : Int → Prop}
    (rooted : Rooted next inside start state)
    (least : Least next weights start state.settled state) {entry : Waiting α}
    {rest : Array (Waiting α)}
    (popped : Heap.pop? Waiting.before state.queue = some (entry, rest))
    (first : entry.region ∉ state.settled) : IsLeast next start state.labels entry.region := by
  intro back cost trail
  have isMember := (Heap.mem_of_pop? popped entry).mpr (Or.inr rfl)
  rcases rooted.labelled entry isMember with ⟨label, isLabel⟩
  refine ⟨label, isLabel, ?_⟩
  rcases caught_up_or_waits laws weighted rooted least trail entry.region back rfl with
    ⟨settled, -⟩ | ⟨other, member, lower⟩
  · exact absurd settled first
  · rw [least.popped_cost laws rooted popped first isLabel]
    exact laws.le_trans (least.fits entry isMember) (least.fits other member)
      (trail.isCost weighted) (least.le_of_popped laws popped other member) lower

/-- Following the connections of the region whose turn it is keeps what was known, reaches the
regions behind them at no more than the cost of this way, and makes no label larger. -/
theorem Least.follow (laws : LawfulCosts weights)
    (weighted : ∀ region, ∀ arc ∈ next region, weights arc.2)
    (closed : ∀ region ∈ domain, ∀ arc ∈ next region, arc.1 ∈ domain)
    (rooted : Rooted next (· ∈ domain) start state)
    (least : Least next weights start state.settled state) {entry : Waiting α}
    {rest : Array (Waiting α)}
    (popped : Heap.pop? Waiting.before state.queue = some (entry, rest))
    (first : entry.region ∉ state.settled) {present : Label α}
    (isPresent : state.labels.find? entry.region = some present) :
    Least next weights start state.settled (Search.turn next state entry rest) ∧
      (∀ arc ∈ ahead next (Search.settle state entry rest).settled entry.region, ∃ behind,
        (Search.turn next state entry rest).labels.find? arc.1 = some behind ∧
          behind.cost ≤ present.cost + arc.2) ∧
      ∀ region label, state.labels.find? region = some label → ∃ later,
        (Search.turn next state entry rest).labels.find? region = some later ∧
          later.cost ≤ label.cost := by
  have inside := rooted.inside entry.region present isPresent
  rw [Search.turn, ← least.popped_cost laws rooted popped first isPresent]
  refine (least.settle laws rooted popped first).foldl_relax laws weighted _ _
    (rooted.settle popped first) (fun region member => List.mem_cons_of_mem _ member)
    List.mem_cons_self isPresent (least.le_of_settled laws rooted popped first isPresent) ?_
  intro arc member
  rcases mem_ahead.mp member with ⟨isArc, fresh⟩
  exact ⟨isArc, fresh, closed _ inside arc isArc⟩

/-- In a full turn the region whose turn it is is settled at its least cost, and its connections are
followed. -/
theorem Least.turn (laws : LawfulCosts weights)
    (weighted : ∀ region, ∀ arc ∈ next region, weights arc.2)
    (closed : ∀ region ∈ domain, ∀ arc ∈ next region, arc.1 ∈ domain)
    (rooted : Rooted next (· ∈ domain) start state)
    (least : Least next weights start state.settled state) {entry : Waiting α}
    {rest : Array (Waiting α)}
    (popped : Heap.pop? Waiting.before state.queue = some (entry, rest))
    (first : entry.region ∉ state.settled) :
    Least next weights start (Search.turn next state entry rest).settled
      (Search.turn next state entry rest) := by
  have isMember := (Heap.mem_of_pop? popped entry).mpr (Or.inr rfl)
  rcases rooted.labelled entry isMember with ⟨present, isPresent⟩
  rcases least.follow laws weighted closed rooted popped first isPresent with
    ⟨finalLeast, reached, -⟩
  have nowSettled : (Search.turn next state entry rest).settled = entry.region :: state.settled :=
    foldl_relax_settled _ _ _ _
  refine { finalLeast with reached := ?_ }
  intro region member label isLabel arc isArc
  rw [nowSettled] at member
  rcases List.mem_cons.mp member with rfl | settled
  · rw [turn_find?_of_settled List.mem_cons_self] at isLabel
    cases isLabel.symm.trans isPresent
    by_cases done : arc.1 ∈ entry.region :: state.settled
    · rcases (rooted.settle popped first).settled_labelled arc.1 done with ⟨behind, isBehind⟩
      have sumPresent := least.sums _ _ isPresent
      have isWeight := weighted _ arc isArc
      have largest := least.le_of_settled laws rooted popped first isPresent
      exact ⟨behind, (turn_find?_of_settled done).trans isBehind,
        laws.le_trans (least.sums _ _ isBehind) sumPresent (sumPresent.add isWeight)
          (largest arc.1 done behind isBehind) (laws.le_add sumPresent isWeight)⟩
    · exact reached arc (mem_ahead.mpr ⟨isArc, done⟩)
  · exact finalLeast.reached region settled label isLabel arc isArc

/-- What every turn keeps where costs obey their laws. -/
structure Orderly (next : Int → List (Int × α)) (weights : α → Prop) (domain : Finset Int)
    (start : Int) (state : State α) : Prop where
  rooted : Rooted next (· ∈ domain) start state
  least : Least next weights start state.settled state

theorem Orderly.begin (laws : LawfulCosts weights) {source : Nat}
    (inside : (source : Int) ∈ domain) :
    Orderly next weights domain source (Search.start source) :=
  ⟨.begin inside, .begin laws source⟩

variable {entry : Waiting α} {rest : Array (Waiting α)}

theorem Orderly.skip (laws : LawfulCosts weights)
    (orderly : Orderly next weights domain start state)
    (popped : Heap.pop? Waiting.before state.queue = some (entry, rest))
    (again : entry.region ∈ state.settled) :
    Orderly next weights domain start { state with queue := rest } :=
  ⟨orderly.rooted.skip popped again, orderly.least.pop laws popped⟩

section Run

variable (laws : LawfulCosts weights) (weighted : ∀ region, ∀ arc ∈ next region, weights arc.2)
  (closed : ∀ region ∈ domain, ∀ arc ∈ next region, arc.1 ∈ domain)

include laws weighted closed

theorem Orderly.turn (orderly : Orderly next weights domain start state)
    (popped : Heap.pop? Waiting.before state.queue = some (entry, rest))
    (first : entry.region ∉ state.settled) :
    Orderly next weights domain start (Search.turn next state entry rest) :=
  ⟨orderly.rooted.turn closed popped first,
    orderly.least.turn laws weighted closed orderly.rooted popped first⟩

/-- A search that is given enough turns ends without a fault.  What its turns keep besides the order
of costs holds to the end. -/
theorem run_ends_orderly {ε : Type} (holds : State α → Prop)
    {arcs : List Int → Int → Except ε (List (Int × α))}
    (opened : ∀ settled, ∀ region ∈ domain, arcs settled region = .ok (ahead next settled region))
    (goal : Option Int)
    (skipped : ∀ {state entry rest}, Orderly next weights domain start state → holds state →
      Heap.pop? Waiting.before state.queue = some (entry, rest) → entry.region ∈ state.settled →
      holds { state with queue := rest })
    (turned : ∀ {state entry rest}, Orderly next weights domain start state → holds state →
      Heap.pop? Waiting.before state.queue = some (entry, rest) → entry.region ∉ state.settled →
      holds (turn next state entry rest))
    (turns : Nat) (orderly : Orderly next weights domain start state) (before : holds state)
    (enough : pending next domain state < turns) :
    ∃ final, run arcs goal turns state = .ok final ∧
      (Orderly next weights domain start final ∧ holds final ∧ final.queue.size = 0 ∨
        ∃ last entry rest, Orderly next weights domain start last ∧ holds last ∧
          Heap.pop? Waiting.before last.queue = some (entry, rest) ∧ entry.region ∉ last.settled ∧
          goal = some entry.region ∧ final = settle last entry rest) := by
  rcases run_ends (fun state => Orderly next weights domain start state ∧ holds state) opened goal
    (fun before => before.1.rooted.waiting_inside)
    (fun ⟨orderly, before⟩ popped again =>
      ⟨orderly.skip laws popped again, skipped orderly before popped again⟩)
    (fun ⟨orderly, before⟩ popped first =>
      ⟨orderly.turn laws weighted closed popped first, turned orderly before popped first⟩)
    turns state ⟨orderly, before⟩ enough with
    ⟨final, ended, ⟨⟨finalOrderly, after⟩, empty⟩ |
      ⟨last, entry, rest, ⟨lastOrderly, after⟩, popped, first, isGoal, isFinal⟩⟩
  · exact ⟨final, ended, Or.inl ⟨finalOrderly, after, empty⟩⟩
  · exact ⟨final, ended,
      Or.inr ⟨last, entry, rest, lastOrderly, after, popped, first, isGoal, isFinal⟩⟩

/-- A search that is given enough turns ends without a fault and with least costs. -/
theorem run_outcome {ε : Type} {arcs : List Int → Int → Except ε (List (Int × α))}
    (opened : ∀ settled, ∀ region ∈ domain, arcs settled region = .ok (ahead next settled region))
    (goal : Option Int) (turns : Nat) (orderly : Orderly next weights domain start state)
    (enough : pending next domain state < turns) :
    ∃ final, run arcs goal turns state = .ok final ∧
      Outcome next weights (· ∈ domain) start goal final := by
  rcases run_ends_orderly laws weighted closed (fun _ => True) opened goal
    (fun _ _ _ _ => trivial) (fun _ _ _ _ => trivial) turns orderly trivial enough with
    ⟨final, ended, ⟨⟨rooted, least⟩, -, empty⟩ |
      ⟨last, entry, rest, ⟨rooted, least⟩, -, popped, first, isGoal, rfl⟩⟩
  · exact ⟨final, ended, rooted, least.toSummed,
      fun region _ => isLeast_of_empty laws weighted rooted least empty region⟩
  · refine ⟨_, ended, rooted.settle popped first, least.toSummed, ?_⟩
    rintro region (unlimited | sought)
    · rw [unlimited] at isGoal
      cases isGoal
    · cases isGoal.symm.trans sought
      exact isLeast_of_popped laws weighted rooted least popped first

end Run

end Egress.Search
