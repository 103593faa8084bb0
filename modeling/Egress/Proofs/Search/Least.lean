import Egress.Proofs.Search.Rooted

/-!
# Settled costs are least

Where costs obey their laws, regions are settled in ascending order of cost.  A label adds one
weight to the cost of a settled region, a waiting region is never served ahead of a cheaper one, and
no label can be lowered any more once its region is settled.  So a trail either has been caught up
with, or still has a waiting region on it that costs no more than the trail.
-/

namespace Egress.Search

variable {α : Type} [Scalar α]

/-- Every label is a cost and adds the weight of a connection to the cost of the label before it. -/
structure Summed (next : Int → List (Int × α)) (weights : α → Prop) (start : Int)
    (labels : Labels α) : Prop where
  sums : ∀ region label, labels.find? region = some label → IsCost weights label.cost
  added : ∀ region label, labels.find? region = some label → region ≠ start →
    ∃ previous before weight, label.previous = some previous ∧
      labels.find? previous = some before ∧ (region, weight) ∈ next previous ∧
      label.cost = before.cost + weight

/-- What every turn keeps if costs obey their laws.  The connections leaving the regions in a list
have been followed. -/
structure Least (next : Int → List (Int × α)) (weights : α → Prop) (start : Int)
    (followed : List Int) (state : State α) : Prop
    extends Summed next weights start state.labels where
  fits : Heap.Fit (fun entry => IsCost weights entry.cost) state.queue
  inOrder : Heap.InOrder Waiting.before state.queue
  /-- A waiting region is waiting at its present cost or at a larger one. -/
  present : ∀ entry ∈ state.queue, ∀ label, state.labels.find? entry.region = some label →
    entry.cost = label.cost ∨ label.cost < entry.cost
  ascending : ∀ region ∈ state.settled, ∀ label, state.labels.find? region = some label →
    ∀ entry ∈ state.queue, label.cost ≤ entry.cost
  reached : ∀ region ∈ followed, ∀ label, state.labels.find? region = some label →
    ∀ arc ∈ next region, ∃ behind, state.labels.find? arc.1 = some behind ∧
      behind.cost ≤ label.cost + arc.2

variable {next : Int → List (Int × α)} {domain : Int → Prop} {weights : α → Prop} {start : Int}
  {state : State α} {followed : List Int}

namespace Least

theorem begin (laws : LawfulCosts weights) (source : Nat) :
    Least next weights source [] (Search.start (α := α) source) := by
  have begun : Search.start (α := α) source = relabel ⟨∅, [], #[], 0⟩ source ⟨Scalar.zero, none⟩ :=
    rfl
  have only : ∀ region label, (Search.start (α := α) source).labels.find? region = some label →
      region = source ∧ label = ⟨Scalar.zero, none⟩ := by
    intro region label found
    rw [begun, relabel_find?] at found
    split at found
    · rename_i same
      cases found
      exact ⟨same.symm, rfl⟩
    · cases found
  have queue : ∀ entry ∈ (Search.start (α := α) source).queue, entry.cost = Scalar.zero := by
    intro entry member
    rw [begun] at member
    rcases mem_relabel.mp member with old | new
    · cases Array.not_mem_empty _ old
    · rw [new]
  constructor
  · constructor
    · intro region label found
      rw [(only region label found).2]
      exact .zero
    · intro region label found different
      exact absurd (only region label found).1 different
  · intro entry member
    rw [queue entry member]
    exact .zero
  · apply Heap.push_inOrder (Waiting.precedence laws)
    · intro entry member
      cases Array.not_mem_empty _ member
    · exact IsCost.zero
    · exact Heap.inOrder_empty
  · intro entry member label found
    rw [queue entry member, (only _ label found).2]
    exact Or.inl rfl
  · intro region member
    cases member
  · intro region member
    cases member

variable {entry : Waiting α} {rest : Array (Waiting α)}

/-- The region whose turn it is costs no more than any that waits. -/
theorem le_of_popped (laws : LawfulCosts weights) (least : Least next weights start followed state)
    (popped : Heap.pop? Waiting.before state.queue = some (entry, rest)) :
    ∀ other ∈ state.queue, entry.cost ≤ other.cost := by
  intro other member
  have behind := Heap.pop?_first (Waiting.precedence laws) least.fits least.inOrder popped
    other member
  have isMember := (Heap.mem_of_pop? popped entry).mpr (Or.inr rfl)
  exact ((Waiting.before_eq_false_iff laws (least.fits entry isMember)
    (least.fits other member)).mp behind).1

/-- Taking a region out of the queue keeps the facts about labels and the queue. -/
theorem pop (laws : LawfulCosts weights) (least : Least next weights start followed state)
    (popped : Heap.pop? Waiting.before state.queue = some (entry, rest)) :
    Least next weights start followed { state with queue := rest } where
  sums := least.sums
  added := least.added
  fits := fun other member => least.fits other ((Heap.mem_of_pop? popped other).mpr (Or.inl member))
  inOrder := Heap.pop?_inOrder (Waiting.precedence laws) least.fits least.inOrder popped
  present := fun other member =>
    least.present other ((Heap.mem_of_pop? popped other).mpr (Or.inl member))
  ascending := fun region settled label found other member =>
    least.ascending region settled label found other
      ((Heap.mem_of_pop? popped other).mpr (Or.inl member))
  reached := least.reached

/-- A region that is not settled yet has its turn at its present cost. -/
theorem popped_cost (laws : LawfulCosts weights)
    (rooted : Rooted next domain start state) (least : Least next weights start followed state)
    (popped : Heap.pop? Waiting.before state.queue = some (entry, rest))
    (first : entry.region ∉ state.settled) {label : Label α}
    (found : state.labels.find? entry.region = some label) : label.cost = entry.cost := by
  have isMember := (Heap.mem_of_pop? popped entry).mpr (Or.inr rfl)
  rcases least.present entry isMember label found with same | larger
  · exact same.symm
  · rcases rooted.waits entry.region label found with settled | ⟨other, member, -, isCost⟩
    · exact absurd settled first
    · have smaller := least.le_of_popped laws popped other member
      rw [isCost] at smaller
      exact absurd smaller ((laws.lt_iff_not_le (least.sums _ _ found)
        (least.fits entry isMember)).mp larger)

/-- Settling a region keeps the order of costs. -/
theorem settle (laws : LawfulCosts weights)
    (rooted : Rooted next domain start state) (least : Least next weights start followed state)
    (popped : Heap.pop? Waiting.before state.queue = some (entry, rest))
    (first : entry.region ∉ state.settled) :
    Least next weights start followed
      { state with queue := rest, settled := entry.region :: state.settled } where
  toSummed := least.toSummed
  fits := (least.pop laws popped).fits
  inOrder := (least.pop laws popped).inOrder
  present := (least.pop laws popped).present
  ascending := by
    intro region member label found other waiting
    rcases List.mem_cons.mp member with rfl | settled
    · rw [least.popped_cost laws rooted popped first found]
      have member := (Heap.mem_of_pop? popped other).mpr (Or.inl waiting)
      exact least.le_of_popped laws popped other member
    · exact (least.pop laws popped).ascending region settled label found other waiting
  reached := least.reached

/-- Of all settled regions the one settled last has the largest label. -/
theorem le_of_settled (laws : LawfulCosts weights) (rooted : Rooted next domain start state)
    (least : Least next weights start followed state)
    (popped : Heap.pop? Waiting.before state.queue = some (entry, rest))
    (first : entry.region ∉ state.settled) {present : Label α}
    (isPresent : state.labels.find? entry.region = some present) :
    ∀ region ∈ entry.region :: state.settled, ∀ label,
      state.labels.find? region = some label → label.cost ≤ present.cost := by
  intro region member label isLabel
  rcases List.mem_cons.mp member with rfl | settled
  · rw [isLabel] at isPresent
    cases isPresent
    exact laws.le_refl (least.sums _ _ isLabel)
  · rw [least.popped_cost laws rooted popped first isPresent]
    exact least.ascending region settled label isLabel entry
      ((Heap.mem_of_pop? popped entry).mpr (Or.inr rfl))

/-- A label for a region that is not settled adds one weight to a settled label. -/
theorem summed_relabel (rooted : Rooted next domain start state)
    (least : Least next weights start followed state) {source target : Int} {weight : α}
    {present : Label α} (settled : source ∈ state.settled)
    (found : state.labels.find? source = some present) (isWeight : weights weight)
    (isArc : (target, weight) ∈ next source) (ahead : target ∉ state.settled) :
    Summed next weights start
      (Search.relabel state target ⟨present.cost + weight, some source⟩).labels := by
  have kept : ∀ region ∈ state.settled,
      (Search.relabel state target ⟨present.cost + weight, some source⟩).labels.find? region =
        state.labels.find? region :=
    fun region member => relabel_find?_of_settled _ ahead member
  constructor
  · intro region label isLabel
    rw [relabel_find?] at isLabel
    split at isLabel
    · cases isLabel
      exact (least.sums source present found).add isWeight
    · exact least.sums region label isLabel
  · intro region label isLabel different
    rw [relabel_find?] at isLabel
    split at isLabel
    · rename_i same
      cases isLabel
      exact ⟨source, present, weight, rfl, (kept source settled).trans found, same ▸ isArc, rfl⟩
    · rcases rooted.led region label isLabel different with ⟨previous, isPrevious, done, -⟩
      rcases least.added region label isLabel different with
        ⟨other, before, added, isOther, isBefore, arc, sum⟩
      cases isPrevious.symm.trans isOther
      exact ⟨previous, before, added, isOther, (kept previous done).trans isBefore, arc, sum⟩

/-- A region that waited before is waiting at more than a smaller label. -/
theorem lt_of_relabelled (laws : LawfulCosts weights) (rooted : Rooted next domain start state)
    (least : Least next weights start followed state) {target : Int} {cost : α}
    (sum : IsCost weights cost)
    (smaller : ∀ label, state.labels.find? target = some label → cost < label.cost)
    {entry : Waiting α} (member : entry ∈ state.queue) (isTarget : target = entry.region) :
    cost < entry.cost := by
  rcases rooted.labelled entry member with ⟨former, isFormer⟩
  have lower := smaller former (isTarget ▸ isFormer)
  have sumFormer := least.sums _ _ isFormer
  have sumEntry := least.fits entry member
  have upper : former.cost ≤ entry.cost := by
    rcases least.present entry member former isFormer with level | larger
    · exact level ▸ laws.le_refl sumEntry
    · exact laws.le_of_lt sumFormer sumEntry larger
  exact laws.lt_of_lt_of_le sum sumFormer sumEntry lower upper

/-- A smaller label for a region that is not settled keeps the facts. -/
theorem relabel (laws : LawfulCosts weights)
    (weighted : ∀ region, ∀ arc ∈ next region, weights arc.2)
    (rooted : Rooted next domain start state) (least : Least next weights start followed state)
    (within : ∀ region ∈ followed, region ∈ state.settled)
    {source target : Int} {weight : α} {present : Label α} (settled : source ∈ state.settled)
    (found : state.labels.find? source = some present)
    (largest : ∀ region ∈ state.settled, ∀ label, state.labels.find? region = some label →
      label.cost ≤ present.cost)
    (isArc : (target, weight) ∈ next source)
    (ahead : target ∉ state.settled)
    (smaller : ∀ label, state.labels.find? target = some label →
      present.cost + weight < label.cost) :
    Least next weights start followed
      (Search.relabel state target ⟨present.cost + weight, some source⟩) := by
  have isWeight := weighted source _ isArc
  have sumPresent := least.sums source present found
  have sumNew := sumPresent.add isWeight
  have kept : ∀ region ∈ state.settled,
      (Search.relabel state target ⟨present.cost + weight, some source⟩).labels.find? region =
        state.labels.find? region :=
    fun region member => relabel_find?_of_settled _ ahead member
  constructor
  · exact least.summed_relabel rooted settled found isWeight isArc ahead
  · intro entry member
    rcases mem_relabel.mp member with old | new
    · exact least.fits entry old
    · rw [new]
      exact sumNew
  · exact Heap.push_inOrder (Waiting.precedence laws) least.fits sumNew least.inOrder
  · intro entry member label isLabel
    rw [relabel_find?] at isLabel
    rcases mem_relabel.mp member with old | new
    · split at isLabel
      · rename_i same
        cases isLabel
        exact Or.inr (least.lt_of_relabelled laws rooted sumNew smaller old same)
      · exact least.present entry old label isLabel
    · rw [new] at isLabel
      rw [if_pos rfl] at isLabel
      cases isLabel
      rw [new]
      exact Or.inl rfl
  · intro region done label isLabel entry member
    rw [kept region done] at isLabel
    rcases mem_relabel.mp member with old | new
    · exact least.ascending region done label isLabel entry old
    · rw [new]
      exact laws.le_trans (least.sums _ _ isLabel) sumPresent sumNew
        (largest region done label isLabel) (laws.le_add sumPresent isWeight)
  · intro region done label isLabel arc isNext
    rw [kept region (within region done)] at isLabel
    rcases least.reached region done label isLabel arc isNext with ⟨behind, isBehind, upper⟩
    rw [relabel_find?]
    split
    · rename_i same
      have lower := smaller behind (same ▸ isBehind)
      have sumBehind := least.sums _ _ isBehind
      have sumWay := (least.sums _ _ isLabel).add (weighted region arc isNext)
      exact ⟨_, rfl, laws.le_of_lt sumNew sumWay
        (laws.lt_of_lt_of_le sumNew sumBehind sumWay lower upper)⟩
    · exact ⟨behind, isBehind, upper⟩

/-- Following a connection of the region settled last keeps the facts and reaches the region behind
the connection at no more than the cost of this way. -/
theorem relax (laws : LawfulCosts weights)
    (weighted : ∀ region, ∀ arc ∈ next region, weights arc.2)
    (rooted : Rooted next domain start state) (least : Least next weights start followed state)
    (within : ∀ region ∈ followed, region ∈ state.settled)
    {source : Int} {arc : Int × α} {present : Label α} (settled : source ∈ state.settled)
    (found : state.labels.find? source = some present)
    (largest : ∀ region ∈ state.settled, ∀ label, state.labels.find? region = some label →
      label.cost ≤ present.cost)
    (isArc : arc ∈ next source) (ahead : arc.1 ∉ state.settled) :
    Least next weights start followed (Search.relax source present.cost state arc) ∧
      ∃ behind, (Search.relax source present.cost state arc).labels.find? arc.1 = some behind ∧
        behind.cost ≤ present.cost + arc.2 := by
  have sumWay := (least.sums source present found).add (weighted source arc isArc)
  rcases relax_cases source present.cost state arc with ⟨same, label, isLabel, notLess⟩ |
    ⟨changed, smaller⟩
  · rw [same]
    exact ⟨least, label, isLabel, laws.le_of_not_lt sumWay (least.sums _ _ isLabel) notLess⟩
  · rw [changed]
    refine ⟨least.relabel laws weighted rooted within settled found largest isArc ahead smaller,
      ⟨present.cost + arc.2, some source⟩, ?_, laws.le_refl sumWay⟩
    rw [relabel_find?, if_pos rfl]

/-- Following a connection makes no label larger. -/
theorem relax_le (laws : LawfulCosts weights)
    (weighted : ∀ region, ∀ arc ∈ next region, weights arc.2)
    (least : Least next weights start followed state)
    {source : Int} {arc : Int × α} {present : Label α}
    (found : state.labels.find? source = some present) (isArc : arc ∈ next source)
    {region : Int} {label : Label α} (isLabel : state.labels.find? region = some label) :
    ∃ later, (Search.relax source present.cost state arc).labels.find? region = some later ∧
      later.cost ≤ label.cost := by
  have sumLabel := least.sums region label isLabel
  rcases relax_cases source present.cost state arc with ⟨same, -⟩ | ⟨changed, smaller⟩
  · rw [same]
    exact ⟨label, isLabel, laws.le_refl sumLabel⟩
  · rw [changed, relabel_find?]
    split
    · rename_i same
      have sumWay := (least.sums source present found).add (weighted source arc isArc)
      exact ⟨_, rfl, laws.le_of_lt sumWay sumLabel (smaller label (same ▸ isLabel))⟩
    · exact ⟨label, isLabel, laws.le_refl sumLabel⟩

/-- Following several connections of the region settled last reaches all regions behind them. -/
theorem foldl_relax (laws : LawfulCosts weights)
    (weighted : ∀ region, ∀ arc ∈ next region, weights arc.2)
    {source : Int} {present : Label α} (found : List (Int × α)) (state : State α)
    (rooted : Rooted next domain start state) (least : Least next weights start followed state)
    (within : ∀ region ∈ followed, region ∈ state.settled) (settled : source ∈ state.settled)
    (isPresent : state.labels.find? source = some present)
    (largest : ∀ region ∈ state.settled, ∀ label, state.labels.find? region = some label →
      label.cost ≤ present.cost)
    (arcs : ∀ arc ∈ found, arc ∈ next source ∧ arc.1 ∉ state.settled ∧ domain arc.1) :
    Least next weights start followed (found.foldl (Search.relax source present.cost) state) ∧
      (∀ arc ∈ found, ∃ behind,
        (found.foldl (Search.relax source present.cost) state).labels.find? arc.1 = some behind ∧
          behind.cost ≤ present.cost + arc.2) ∧
      ∀ region label, state.labels.find? region = some label → ∃ later,
        (found.foldl (Search.relax source present.cost) state).labels.find? region = some later ∧
          later.cost ≤ label.cost := by
  induction found generalizing state with
  | nil =>
    refine ⟨least, fun arc member => absurd member List.not_mem_nil, ?_⟩
    intro region label isLabel
    exact ⟨label, isLabel, laws.le_refl (least.sums region label isLabel)⟩
  | cons arc others hypothesis =>
    rcases arcs arc List.mem_cons_self with ⟨isArc, ahead, inside⟩
    rcases least.relax laws weighted rooted within settled isPresent largest isArc ahead with
      ⟨nowLeast, behind, isBehind, upper⟩
    have kept : ∀ region ∈ state.settled,
        (Search.relax source present.cost state arc).labels.find? region =
          state.labels.find? region :=
      fun region member => relax_find?_of_settled _ _ ahead member
    have nowSettled := relax_settled source present.cost state arc
    rcases hypothesis (Search.relax source present.cost state arc)
      (rooted.relax present.cost settled isArc ahead inside) nowLeast
      (fun region member => nowSettled ▸ within region member) (nowSettled ▸ settled)
      ((kept source settled).trans isPresent)
      (fun region member label isLabel => by
        rw [nowSettled] at member
        exact largest region member label ((kept region member).symm.trans isLabel))
      (fun other member => nowSettled ▸ arcs other (List.mem_cons_of_mem _ member)) with
      ⟨finalLeast, reached, lowered⟩
    rw [List.foldl_cons]
    refine ⟨finalLeast, ?_, ?_⟩
    · intro other member
      rcases List.mem_cons.mp member with rfl | later
      · rcases lowered other.1 behind isBehind with ⟨final, isFinal, lower⟩
        have sumWay := (least.sums source present isPresent).add (weighted source other isArc)
        exact ⟨final, isFinal, laws.le_trans (finalLeast.sums _ _ isFinal)
          (nowLeast.sums _ _ isBehind) sumWay lower upper⟩
      · exact reached other later
    · intro region label isLabel
      rcases least.relax_le laws weighted isPresent isArc isLabel with ⟨middle, isMiddle, lower⟩
      rcases lowered region middle isMiddle with ⟨final, isFinal, lowest⟩
      exact ⟨final, isFinal, laws.le_trans (finalLeast.sums _ _ isFinal)
        (nowLeast.sums _ _ isMiddle) (least.sums _ _ isLabel) lowest lower⟩

end Least

end Egress.Search
