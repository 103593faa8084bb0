import Mathlib.Algebra.BigOperators.Group.Finset.Basic
import Mathlib.Algebra.Order.BigOperators.Group.Finset
import Egress.Proofs.Search.Rooted
import Egress.Proofs.Traversal

/-!
# The turns of a search

A search opens each region at most once, so it ends in time: the waiting regions and the connections
not followed yet are more than the turns to come only if too few turns were allowed.  What skipping
a region and what a full turn keep holds to the end, when nothing waits any more or the goal has its
turn.

By then every region to which a trail leads is labelled, or the goal at least.  Like the way back
from a label, this does not depend on the weights.
-/

namespace Egress.Search

variable {α : Type} [Scalar α]

/-- How many turns can still come: one for each waiting region and for each connection that leaves a
region not settled yet. -/
def pending (next : Int → List (Int × α)) (domain : Finset Int) (state : State α) : Nat :=
  state.queue.size + ∑ region ∈ domain with region ∉ state.settled, (next region).length

/-- The region whose turn it is is settled. -/
def settle (state : State α) (entry : Waiting α) (rest : Array (Waiting α)) : State α :=
  { state with queue := rest, settled := entry.region :: state.settled }

/-- The connections from a region to regions that are not settled. -/
def ahead (next : Int → List (Int × α)) (settled : List Int) (region : Int) : List (Int × α) :=
  (next region).filter fun arc => !settled.contains arc.1

/-- A full turn: the region is settled, and its connections are followed. -/
def turn (next : Int → List (Int × α)) (state : State α) (entry : Waiting α)
    (rest : Array (Waiting α)) : State α :=
  (ahead next (settle state entry rest).settled entry.region).foldl
    (relax entry.region entry.cost) (settle state entry rest)

variable {next : Int → List (Int × α)} {domain : Finset Int} {start : Int} {state : State α}
  {entry : Waiting α} {rest : Array (Waiting α)}

omit [Scalar α] in
theorem mem_ahead {settled : List Int} {region : Int} {arc : Int × α} :
    arc ∈ ahead next settled region ↔ arc ∈ next region ∧ arc.1 ∉ settled := by
  rw [ahead, List.mem_filter, Bool.not_eq_true', ← Bool.not_eq_true, List.contains_iff_mem]

/-- A full turn leaves the labels of all settled regions alone, that of the region settled by it
among them. -/
theorem turn_find?_of_settled {region : Int}
    (settled : region ∈ (settle state entry rest).settled) :
    (turn next state entry rest).labels.find? region = state.labels.find? region :=
  foldl_relax_find?_of_settled _ _ (fun _ isAhead => (mem_ahead.mp isAhead).2) settled

theorem pending_begin (source : Nat) :
    pending next domain (Search.start (α := α) source) =
      1 + ∑ region ∈ domain, (next region).length := by
  have size : (Search.start (α := α) source).queue.size = 1 := Heap.size_push _ _ _
  have settled : (Search.start (α := α) source).settled = [] := rfl
  simp only [pending, size, settled, List.not_mem_nil, not_false_eq_true, Finset.filter_true]

/-- A full turn uses up a turn. -/
theorem pending_turn (popped : Heap.pop? Waiting.before state.queue = some (entry, rest))
    (first : entry.region ∉ state.settled) (inside : entry.region ∈ domain) :
    pending next domain (turn next state entry rest) < pending next domain state := by
  have size := foldl_relax_size entry.region entry.cost
    (ahead next (settle state entry rest).settled entry.region) (settle state entry rest)
  have few : (ahead next (settle state entry rest).settled entry.region).length ≤
      (next entry.region).length := List.length_filter_le _ _
  have smaller := Heap.size_of_pop? popped
  have remaining : (domain.filter fun region => region ∉ (settle state entry rest).settled) =
      (domain.filter fun region => region ∉ state.settled).erase entry.region := by
    ext region
    simp only [settle, Finset.mem_filter, Finset.mem_erase, List.mem_cons, not_or]
    exact ⟨fun h => ⟨h.2.1, h.1, h.2.2⟩, fun h => ⟨h.2.1, h.1, h.2.2⟩⟩
  have member : entry.region ∈ domain.filter fun region => region ∉ state.settled :=
    Finset.mem_filter.mpr ⟨inside, first⟩
  have split := Finset.add_sum_erase _ (fun region => (next region).length) member
  unfold pending turn
  rw [foldl_relax_settled, remaining]
  dsimp only [settle] at size few split ⊢
  omega

theorem pending_skip (popped : Heap.pop? Waiting.before state.queue = some (entry, rest)) :
    pending next domain { state with queue := rest } < pending next domain state := by
  have smaller := Heap.size_of_pop? popped
  unfold pending
  dsimp only
  omega

/-- Where no entry is taken out, none waits. -/
theorem empty_of_pop? (nothing : Heap.pop? Waiting.before state.queue = none) :
    state.queue.size = 0 := by
  by_contra inhabited
  have some : (Heap.pop? Waiting.before state.queue).isSome = true :=
    Heap.pop?_isSome (Nat.pos_of_ne_zero inhabited)
  rw [nothing] at some
  exact Bool.noConfusion some

section Run

variable {ε : Type} {arcs : List Int → Int → Except ε (List (Int × α))} {goal : Option Int}

/-- A search ends when nothing waits any more. -/
theorem run_of_empty (empty : state.queue.size = 0) (turns : Nat) :
    run arcs goal turns state = .ok state := by
  cases turns with
  | zero => rfl
  | succ turns =>
    have nothing : Heap.pop? Waiting.before state.queue = none := by
      rw [Array.eq_empty_of_size_eq_zero empty]
      rfl
    rw [run, nothing]

/-- A region that was settled before costs a turn and nothing else. -/
theorem run_of_skipped (popped : Heap.pop? Waiting.before state.queue = some (entry, rest))
    (again : entry.region ∈ state.settled) (turns : Nat) :
    run arcs goal (turns + 1) state = run arcs goal turns { state with queue := rest } := by
  rw [run, popped]
  exact if_pos (List.contains_iff_mem.mpr again)

/-- A search ends when its goal has its first turn. -/
theorem run_of_goal (popped : Heap.pop? Waiting.before state.queue = some (entry, rest))
    (first : entry.region ∉ state.settled) (isGoal : goal = some entry.region) (turns : Nat) :
    run arcs goal (turns + 1) state = .ok (settle state entry rest) := by
  rw [run, popped]
  exact (if_neg fun settled => first (List.contains_iff_mem.mp settled)).trans (if_pos isGoal)

/-- Any other region has a full turn. -/
theorem run_of_turned
    (opened : ∀ settled, ∀ region ∈ domain, arcs settled region = .ok (ahead next settled region))
    (popped : Heap.pop? Waiting.before state.queue = some (entry, rest))
    (inside : entry.region ∈ domain) (first : entry.region ∉ state.settled)
    (other : goal ≠ some entry.region) (turns : Nat) :
    run arcs goal (turns + 1) state = run arcs goal turns (turn next state entry rest) := by
  rw [run, popped]
  refine (if_neg fun settled => first (List.contains_iff_mem.mp settled)).trans ?_
  rw [if_neg other, opened _ entry.region inside]
  rfl

/-- A search fails with nothing but the faults of the arcs. -/
theorem run_fails {admitted : ε → Prop}
    (opening : ∀ settled region, FailsWith admitted (arcs settled region)) (turns : Nat)
    (state : State α) : FailsWith admitted (run arcs goal turns state) := by
  induction turns generalizing state with
  | zero => exact .ok state
  | succ turns hypothesis =>
    unfold run
    split
    · exact .ok state
    · rename_i entry rest popped
      split
      · exact hypothesis _
      · split
        · exact .ok _
        · dsimp only
          split
          · rename_i fault opened
            exact .error (opening _ _ fault opened)
          · exact hypothesis _

end Run

/-- A search that is given enough turns ends without a fault, and what its turns keep holds to the
end.  Then nothing waits any more, or the goal has its first turn. -/
theorem run_ends {ε : Type} (holds : State α → Prop)
    {arcs : List Int → Int → Except ε (List (Int × α))}
    (opened : ∀ settled, ∀ region ∈ domain, arcs settled region = .ok (ahead next settled region))
    (goal : Option Int)
    (inside : ∀ {state}, holds state → ∀ entry ∈ state.queue, entry.region ∈ domain)
    (skipped : ∀ {state entry rest}, holds state →
      Heap.pop? Waiting.before state.queue = some (entry, rest) → entry.region ∈ state.settled →
      holds { state with queue := rest })
    (turned : ∀ {state entry rest}, holds state →
      Heap.pop? Waiting.before state.queue = some (entry, rest) → entry.region ∉ state.settled →
      holds (turn next state entry rest))
    (turns : Nat) (state : State α) (before : holds state)
    (enough : pending next domain state < turns) :
    ∃ final, run arcs goal turns state = .ok final ∧
      (holds final ∧ final.queue.size = 0 ∨ ∃ last entry rest, holds last ∧
        Heap.pop? Waiting.before last.queue = some (entry, rest) ∧ entry.region ∉ last.settled ∧
        goal = some entry.region ∧ final = settle last entry rest) := by
  induction turns generalizing state with
  | zero => exact absurd enough (Nat.not_lt_zero _)
  | succ turns hypothesis =>
    cases popped : Heap.pop? Waiting.before state.queue with
    | none =>
      have empty := empty_of_pop? popped
      exact ⟨state, run_of_empty empty _, Or.inl ⟨before, empty⟩⟩
    | some taken =>
      rcases taken with ⟨entry, rest⟩
      have isInside := inside before entry ((Heap.mem_of_pop? popped entry).mpr (Or.inr rfl))
      by_cases again : entry.region ∈ state.settled
      · rw [run_of_skipped popped again]
        exact hypothesis _ (skipped before popped again)
          (Nat.lt_of_lt_of_le (pending_skip popped) (Nat.le_of_lt_succ enough))
      · by_cases isGoal : goal = some entry.region
        · exact ⟨_, run_of_goal popped again isGoal _,
            Or.inr ⟨state, entry, rest, before, popped, again, isGoal, rfl⟩⟩
        · rw [run_of_turned opened popped isInside again isGoal]
          exact hypothesis _ (turned before popped again)
            (Nat.lt_of_lt_of_le (pending_turn popped again isInside) (Nat.le_of_lt_succ enough))

/-! ## What is reached -/

theorem Rooted.turn (closed : ∀ region ∈ domain, ∀ arc ∈ next region, arc.1 ∈ domain)
    (rooted : Rooted next (· ∈ domain) start state)
    (popped : Heap.pop? Waiting.before state.queue = some (entry, rest))
    (first : entry.region ∉ state.settled) :
    Rooted next (· ∈ domain) start (turn next state entry rest) := by
  have inside := rooted.waiting_inside entry ((Heap.mem_of_pop? popped entry).mpr (Or.inr rfl))
  refine (rooted.settle popped first).foldl_relax entry.cost List.mem_cons_self ?_
  intro arc member
  rcases mem_ahead.mp member with ⟨isArc, fresh⟩
  exact ⟨isArc, fresh, closed entry.region inside arc isArc⟩

/-- Following a connection takes no label away, and leaves the region behind it labelled. -/
theorem relax_labelled (source : Int) (reached : α) {state : State α} {arc : Int × α}
    {region : Int}
    (before : (∃ label, state.labels.find? region = some label) ∨ arc.1 = region) :
    ∃ label, (relax source reached state arc).labels.find? region = some label := by
  rcases relax_cases source reached state arc with ⟨same, label, found, -⟩ | ⟨changed, -⟩
  · rw [same]
    rcases before with labelled | rfl
    · exact labelled
    · exact ⟨label, found⟩
  · rw [changed, relabel_find?]
    split
    · exact ⟨_, rfl⟩
    · rename_i other
      exact before.resolve_right other

theorem foldl_relax_labelled (source : Int) (reached : α) {found : List (Int × α)}
    {state : State α} {region : Int}
    (before : (∃ label, state.labels.find? region = some label) ∨
      ∃ arc ∈ found, arc.1 = region) :
    ∃ label, (found.foldl (relax source reached) state).labels.find? region = some label := by
  induction found generalizing state with
  | nil => exact before.resolve_right (by simp)
  | cons arc others hypothesis =>
    apply hypothesis
    rcases before with labelled | ⟨other, member, same⟩
    · exact Or.inl (relax_labelled source reached (Or.inl labelled))
    · rcases List.mem_cons.mp member with rfl | later
      · exact Or.inl (relax_labelled source reached (Or.inr same))
      · exact Or.inr ⟨other, later, same⟩

/-- All regions behind the connections of settled regions are labelled. -/
def Spread (next : Int → List (Int × α)) (state : State α) : Prop :=
  ∀ region ∈ state.settled, ∀ arc ∈ next region, ∃ label, state.labels.find? arc.1 = some label

/-- A region that is settled in a full turn has its neighbours labelled. -/
theorem Rooted.spread_turn {inside : Int → Prop} (rooted : Rooted next inside start state)
    (spread : Spread next state)
    (popped : Heap.pop? Waiting.before state.queue = some (entry, rest))
    (first : entry.region ∉ state.settled) : Spread next (Search.turn next state entry rest) := by
  intro region member arc isArc
  rw [Search.turn, foldl_relax_settled] at member
  apply foldl_relax_labelled
  rcases List.mem_cons.mp member with rfl | settled
  · by_cases done : arc.1 ∈ (Search.settle state entry rest).settled
    · exact Or.inl ((rooted.settle popped first).settled_labelled arc.1 done)
    · exact Or.inr ⟨arc, mem_ahead.mpr ⟨isArc, done⟩, rfl⟩
  · exact Or.inl (spread region settled arc isArc)

/-- When nothing waits any more, every region to which a trail leads is labelled. -/
theorem Rooted.labelled_of_trail {inside : Int → Prop} (rooted : Rooted next inside start state)
    (spread : Spread next state) (empty : state.queue.size = 0) {regions : List Int} {cost : α}
    (trail : Trail next start regions cost) :
    ∀ region back, regions = region :: back →
      ∃ label, state.labels.find? region = some label := by
  have nothing : ∀ entry, entry ∉ state.queue := by
    rw [Array.eq_empty_of_size_eq_zero empty]
    exact fun entry => Array.not_mem_empty entry
  induction trail with
  | start =>
    intro region back same
    cases same
    exact ⟨_, rooted.origin⟩
  | @step region back cost arc trail isArc hypothesis =>
    intro last before same
    cases same
    rcases hypothesis region back rfl with ⟨label, found⟩
    rcases rooted.waits region label found with settled | ⟨entry, member, -⟩
    · exact spread region settled arc isArc
    · exact absurd member (nothing entry)

/-- Whatever the weights are, a search that is given enough turns ends without a fault, with labels
that lead back to the start.  A region to which a trail leads is labelled if the search runs to the
end, or stops at this region. -/
theorem run_reaches {ε : Type} {arcs : List Int → Int → Except ε (List (Int × α))}
    (closed : ∀ region ∈ domain, ∀ arc ∈ next region, arc.1 ∈ domain)
    (opened : ∀ settled, ∀ region ∈ domain, arcs settled region = .ok (ahead next settled region))
    (goal : Option Int) (turns : Nat) (state : State α)
    (rooted : Rooted next (· ∈ domain) start state) (spread : Spread next state)
    (enough : pending next domain state < turns) :
    ∃ final, run arcs goal turns state = .ok final ∧ Rooted next (· ∈ domain) start final ∧
      ∀ region back cost, goal = none ∨ goal = some region →
        Trail next start (region :: back) cost →
          ∃ label, final.labels.find? region = some label := by
  rcases run_ends (fun state => Rooted next (· ∈ domain) start state ∧ Spread next state)
    opened goal (fun before => before.1.waiting_inside)
    (fun before popped again => ⟨before.1.skip popped again, before.2⟩)
    (fun before popped first =>
      ⟨before.1.turn closed popped first, before.1.spread_turn before.2 popped first⟩)
    turns state ⟨rooted, spread⟩ enough with
    ⟨final, ended, ⟨⟨finalRooted, finalSpread⟩, empty⟩ |
      ⟨last, entry, rest, ⟨lastRooted, -⟩, popped, first, isGoal, rfl⟩⟩
  · exact ⟨final, ended, finalRooted, fun region back cost _ trail =>
      finalRooted.labelled_of_trail finalSpread empty trail region back rfl⟩
  · refine ⟨_, ended, lastRooted.settle popped first, ?_⟩
    rintro region back cost (unlimited | sought) -
    · rw [unlimited] at isGoal
      cases isGoal
    · cases isGoal.symm.trans sought
      exact lastRooted.labelled entry ((Heap.mem_of_pop? popped entry).mpr (Or.inr rfl))

end Egress.Search
