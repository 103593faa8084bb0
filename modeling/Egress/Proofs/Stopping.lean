import Egress.Proofs.Distances

/-!
# Searches that stop early

A search that is given a goal ends when the goal is settled, and otherwise it takes the same turns
as a search without one.  So the state in which it ends is one that the other search passes.  What
this search does afterwards leaves the labels of settled regions alone and makes no label larger,
and a region that is not settled waits at no less than the cost of the goal.  The way back from the
goal passes settled regions only, so both searches find the same way, at the same cost.
-/

namespace Egress

namespace Search

variable {α : Type} [Scalar α]

/-- What a later state of a search has of an earlier one: settled regions have kept their labels, no
label has been taken away, and none has become larger. -/
structure Continues (earlier later : State α) : Prop where
  settled : ∀ region ∈ earlier.settled, region ∈ later.settled
  kept : ∀ region ∈ earlier.settled, later.labels.find? region = earlier.labels.find? region
  lowered : ∀ region label, earlier.labels.find? region = some label →
    ∃ lower, later.labels.find? region = some lower ∧ lower.cost ≤ label.cost

variable {next : Int → List (Int × α)} {weights : α → Prop} {domain : Finset Int} {start : Int}
  {earlier state later : State α} {entry : Waiting α} {rest : Array (Waiting α)}

namespace Continues

theorem refl (laws : LawfulCosts weights) (summed : Summed next weights start state.labels) :
    Continues state state :=
  ⟨fun _ settled => settled, fun _ _ => rfl, fun region label isLabel =>
    ⟨label, isLabel, laws.le_refl (summed.sums region label isLabel)⟩⟩

theorem settle (continues : Continues earlier state) :
    Continues earlier (Search.settle state entry rest) :=
  ⟨fun region settled => List.mem_cons_of_mem _ (continues.settled region settled),
    continues.kept, continues.lowered⟩

theorem trans (laws : LawfulCosts weights) (first : Summed next weights start earlier.labels)
    (second : Summed next weights start state.labels)
    (third : Summed next weights start later.labels) (before : Continues earlier state)
    (after : Continues state later) : Continues earlier later where
  settled := fun region settled => after.settled region (before.settled region settled)
  kept := fun region settled =>
    (after.kept region (before.settled region settled)).trans (before.kept region settled)
  lowered := by
    intro region label isLabel
    rcases before.lowered region label isLabel with ⟨middle, isMiddle, lower⟩
    rcases after.lowered region middle isMiddle with ⟨final, isFinal, lowest⟩
    exact ⟨final, isFinal, laws.le_trans (third.sums _ _ isFinal) (second.sums _ _ isMiddle)
      (first.sums _ _ isLabel) lowest lower⟩

/-- A region that had been settled has the same way back as before. -/
theorem wayBack {inside : Int → Prop} (continues : Continues earlier later)
    (rooted : Rooted next inside start earlier) {region : Int} (settled : region ∈ earlier.settled)
    {label : Label α} (found : earlier.labels.find? region = some label) :
    ∃ back, earlier.labels.LeadBack (region :: back) ∧ later.labels.LeadBack (region :: back) ∧
      ∀ passed ∈ region :: back, later.labels.find? passed = earlier.labels.find? passed := by
  rcases rooted.wayBack region label found with ⟨back, leads, -, within⟩
  have same : ∀ passed ∈ region :: back,
      later.labels.find? passed = earlier.labels.find? passed := by
    intro passed member
    rcases List.mem_cons.mp member with rfl | before
    · exact continues.kept _ settled
    · exact continues.kept passed (within passed before)
  exact ⟨back, leads, leads.congr same, same⟩

end Continues

/-- Following the connections of a region that has been settled continues the search. -/
theorem Orderly.continues_turn (laws : LawfulCosts weights)
    (weighted : ∀ region, ∀ arc ∈ next region, weights arc.2)
    (closed : ∀ region ∈ domain, ∀ arc ∈ next region, arc.1 ∈ domain)
    (orderly : Orderly next weights domain start state)
    (popped : Heap.pop? Waiting.before state.queue = some (entry, rest))
    (first : entry.region ∉ state.settled) :
    Continues (Search.settle state entry rest) (Search.turn next state entry rest) where
  settled := by
    intro region settled
    rw [Search.turn, foldl_relax_settled]
    exact settled
  kept := fun _ settled => turn_find?_of_settled settled
  lowered := by
    have isMember := (Heap.mem_of_pop? popped entry).mpr (Or.inr rfl)
    rcases orderly.rooted.labelled entry isMember with ⟨present, isPresent⟩
    exact (orderly.least.follow laws weighted closed orderly.rooted popped first isPresent).2.2

section Run

variable {ε : Type} {arcs : List Int → Int → Except ε (List (Int × α))}

/-- A search without a goal that goes on from a state ends in the other one. -/
def EndsIn (arcs : List Int → Int → Except ε (List (Int × α))) (next : Int → List (Int × α))
    (domain : Finset Int) (full state : State α) : Prop :=
  ∃ turns, pending next domain state < turns ∧ run arcs none turns state = .ok full

namespace EndsIn

variable {full : State α}

theorem of_empty (empty : state.queue.size = 0) (ends : EndsIn arcs next domain full state) :
    state = full := by
  rcases ends with ⟨turns, -, ended⟩
  rw [run_of_empty empty] at ended
  exact Except.ok.inj ended

theorem skip (popped : Heap.pop? Waiting.before state.queue = some (entry, rest))
    (again : entry.region ∈ state.settled) (ends : EndsIn arcs next domain full state) :
    EndsIn arcs next domain full { state with queue := rest } := by
  rcases ends with ⟨_ | turns, enough, ended⟩
  · exact absurd enough (Nat.not_lt_zero _)
  · rw [run_of_skipped popped again] at ended
    exact ⟨turns, Nat.lt_of_lt_of_le (pending_skip popped) (Nat.le_of_lt_succ enough), ended⟩

theorem turn
    (opened : ∀ settled, ∀ region ∈ domain, arcs settled region = .ok (ahead next settled region))
    (popped : Heap.pop? Waiting.before state.queue = some (entry, rest))
    (inside : entry.region ∈ domain) (first : entry.region ∉ state.settled)
    (ends : EndsIn arcs next domain full state) :
    EndsIn arcs next domain full (Search.turn next state entry rest) := by
  rcases ends with ⟨_ | turns, enough, ended⟩
  · exact absurd enough (Nat.not_lt_zero _)
  · rw [run_of_turned opened popped inside first (Option.some_ne_none _).symm] at ended
    exact ⟨turns,
      Nat.lt_of_lt_of_le (pending_turn popped first inside) (Nat.le_of_lt_succ enough), ended⟩

end EndsIn

variable (laws : LawfulCosts weights) (weighted : ∀ region, ∀ arc ∈ next region, weights arc.2)
  (closed : ∀ region ∈ domain, ∀ arc ∈ next region, arc.1 ∈ domain)
  (opened : ∀ settled, ∀ region ∈ domain, arcs settled region = .ok (ahead next settled region))

include laws weighted closed opened

/-- A search without a goal continues every state that it passes. -/
theorem run_continues (turns : Nat) (orderly : Orderly next weights domain start state)
    (enough : pending next domain state < turns) (summed : Summed next weights start earlier.labels)
    (continues : Continues earlier state) :
    ∃ full, run arcs none turns state = .ok full ∧ Continues earlier full := by
  rcases run_ends_orderly laws weighted closed (Continues earlier) opened none
    (fun _ before _ _ => ⟨before.settled, before.kept, before.lowered⟩)
    (fun {state entry rest} orderly before popped first => by
      have middle : Summed next weights start (settle state entry rest).labels :=
        orderly.least.toSummed
      have turned := orderly.turn laws weighted closed popped first
      exact before.settle.trans laws summed middle turned.least.toSummed
        (orderly.continues_turn laws weighted closed popped first))
    turns orderly continues enough with
    ⟨full, ended, ⟨-, after, -⟩ | ⟨last, entry, rest, -, -, -, -, isGoal, -⟩⟩
  · exact ⟨full, ended, after⟩
  · cases isGoal

/-- Where a search with a goal ends, compared with a search without one: at the end of that search,
or when the goal has just been settled, and that search goes on. -/
theorem run_stops (goal : Int) (turns : Nat) (orderly : Orderly next weights domain start state)
    (enough : pending next domain state < turns) :
    ∃ stopped full, run arcs (some goal) turns state = .ok stopped ∧
      run arcs none turns state = .ok full ∧ Rooted next (· ∈ domain) start stopped ∧
      Continues stopped full ∧ (stopped = full ∨ goal ∈ stopped.settled ∧
        ∀ reached, stopped.labels.find? goal = some reached →
          ∀ region label, stopped.labels.find? region = some label →
            region ∈ stopped.settled ∨ reached.cost ≤ label.cost) := by
  have summed := orderly.least.toSummed
  rcases run_continues laws weighted closed opened turns orderly enough summed
    (.refl laws summed) with ⟨full, isFull, -⟩
  rcases run_ends_orderly laws weighted closed (EndsIn arcs next domain full) opened (some goal)
    (fun _ ends popped again => ends.skip popped again)
    (fun orderly ends popped first => ends.turn opened popped
      (orderly.rooted.waiting_inside _ ((Heap.mem_of_pop? popped _).mpr (Or.inr rfl))) first)
    turns orderly ⟨turns, enough, isFull⟩ enough with
    ⟨stopped, ended, ⟨⟨rooted, least⟩, ends, empty⟩ |
      ⟨last, entry, rest, orderly, ends, popped, first, isGoal, rfl⟩⟩
  · cases ends.of_empty empty
    exact ⟨full, full, ended, isFull, rooted, .refl laws least.toSummed, Or.inl rfl⟩
  · cases isGoal
    have rooted := orderly.rooted
    have isMember := (Heap.mem_of_pop? popped entry).mpr (Or.inr rfl)
    have summed : Summed next weights start (settle last entry rest).labels :=
      orderly.least.toSummed
    refine ⟨_, full, ended, isFull, rooted.settle popped first, ?_,
      Or.inr ⟨List.mem_cons_self, ?_⟩⟩
    · rcases ends.turn opened popped (rooted.waiting_inside entry isMember) first with
        ⟨left, remain, goesOn⟩
      rcases run_continues laws weighted closed opened left
        (orderly.turn laws weighted closed popped first) remain summed
        (orderly.continues_turn laws weighted closed popped first) with ⟨final, isFinal, continues⟩
      cases goesOn.symm.trans isFinal
      exact continues
    · intro reached isReached region label isLabel
      rcases rooted.waits region label isLabel with settled | ⟨waiting, member, -, isCost⟩
      · exact Or.inl (List.mem_cons_of_mem _ settled)
      · rw [orderly.least.popped_cost laws rooted popped first isReached, ← isCost]
        exact Or.inr (orderly.least.le_of_popped laws popped waiting member)

end Run

end Search

namespace Awareness

variable {start goal : Nat}

/-- A search that stops at its goal agrees with one that goes on.  Both reach the goal or both do
not, and then all labels are the same.  If they do, the way back from the goal has the same labels,
no label is smaller than the final one, and all labels smaller than that of the goal are final. -/
theorem distances_stopped {awareness : Awareness Rat} (weighed : awareness.Weighed)
    (positive : ∀ weight, awareness.Weights weight → 0 < weight)
    (startInside : start < awareness.network.size) (goalInside : goal < awareness.network.size) :
    ∃ stopped full, awareness.distances start (some goal) = .ok stopped ∧
      awareness.distances start none = .ok full ∧
      stopped.contains goal = full.contains goal ∧
      (stopped.contains goal = false → stopped = full) ∧
      (∀ region label, stopped.find? region = some label →
        ∃ least, full.find? region = some least ∧ least.cost ≤ label.cost) ∧
      ∀ reached, stopped.find? goal = some reached →
        (∃ back, stopped.LeadBack (goal :: back) ∧ full.LeadBack (goal :: back) ∧
          ∀ region ∈ (goal : Int) :: back, full.find? region = stopped.find? region) ∧
        ∀ region label, stopped.find? region = some label → label.cost < reached.cost →
          full.find? region = some label := by
  have laws : LawfulCosts awareness.Weights :=
    .of_rat fun weight isWeight => le_of_lt (positive weight isWeight)
  rcases weighed.search_opens startInside with ⟨domain, -, closed, opened, isStart, enough⟩
  rcases Search.run_stops laws weights_of_mem_arcsFrom closed opened goal _ (.begin laws isStart)
    enough with ⟨stopped, full, isStopped, isFull, rooted, continues, relation⟩
  have ofStopped : awareness.search start (some goal) = .ok stopped := isStopped
  have ofFull : awareness.search start none = .ok full := isFull
  refine ⟨stopped.labels, full.labels, ?_, ?_, ?_⟩
  · exact distances_of_search startInside (fun _ isGoal => Option.some.inj isGoal ▸ goalInside)
      ofStopped
  · exact distances_of_search startInside (by simp) ofFull
  rcases relation with rfl | ⟨settled, near⟩
  · refine ⟨rfl, fun _ => rfl, continues.lowered, fun reached isReached => ⟨?_, ?_⟩⟩
    · rcases rooted.wayBack goal reached isReached with ⟨back, leads, -⟩
      exact ⟨back, leads, leads, fun _ _ => rfl⟩
    · exact fun region label isLabel _ => isLabel
  · rcases rooted.settled_labelled goal settled with ⟨label, isLabel⟩
    have reachedStopped : stopped.labels.contains goal = true := by
      rw [Table.contains, isLabel, Option.isSome_some]
    have reachedFull : full.labels.contains goal = true := by
      rw [Table.contains, continues.kept goal settled, isLabel, Option.isSome_some]
    refine ⟨reachedStopped.trans reachedFull.symm, ?_, continues.lowered,
      fun reached isReached => ⟨continues.wayBack rooted settled isReached, ?_⟩⟩
    · intro unreached
      cases reachedStopped.symm.trans unreached
    · intro region label isLabel smaller
      rcases near reached isReached region label isLabel with done | larger
      · exact (continues.kept region done).trans isLabel
      · exact absurd smaller (not_lt.mpr larger)

/-- In the row, a search for the middle room stops before the last room, and agrees with one that
does not stop. -/
theorem distances_stopped_in_row :
    (inRow true []).Weighed ∧ (∀ weight, (inRow true []).Weights weight → 0 < weight) ∧
    0 < (inRow true []).network.size ∧ 1 < (inRow true []).network.size ∧
    ∃ stopped full, (inRow true []).distances 0 (some 1) = .ok stopped ∧
      (inRow true []).distances 0 none = .ok full ∧ stopped.contains 1 = full.contains 1 ∧
      (stopped.contains 1 = false → stopped = full) ∧
      (∀ region label, stopped.find? region = some label →
        ∃ least, full.find? region = some least ∧ least.cost ≤ label.cost) ∧
      ∀ reached, stopped.find? 1 = some reached →
        (∃ back, stopped.LeadBack (1 :: back) ∧ full.LeadBack (1 :: back) ∧
          ∀ region ∈ 1 :: back, full.find? region = stopped.find? region) ∧
        ∀ region label, stopped.find? region = some label → label.cost < reached.cost →
          full.find? region = some label := by
  have sound := inRow_sound true []
  have positive : ∀ weight, (inRow true []).Weights weight → 0 < weight := by
    rintro weight ⟨reference, weighed⟩
    rcases sound.bounded with ⟨low, high, bounded⟩
    exact Tariff.weight_pos bounded weighed
  have startInside : 0 < (inRow true []).network.size := by decide +kernel
  have goalInside : 1 < (inRow true []).network.size := by decide +kernel
  exact ⟨sound.weighed, positive, startInside, goalInside,
    distances_stopped sound.weighed positive startInside goalInside⟩

end Awareness

end Egress
