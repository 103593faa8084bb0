import Egress.Proofs.Search.Turns

/-!
# The order of arrival

Whenever a region is made to wait it gets a number, and no number is given twice.  So of two entries
that wait at one cost the numbers decide which has its turn first, and whatever else an entry holds
is not looked at.
-/

namespace Egress.Search

variable {α : Type} [Scalar α]

/-- The numbers of waiting entries are below the count, and no two entries share one. -/
structure Counted (state : State α) : Prop where
  below : ∀ entry ∈ state.queue, entry.order < state.count
  unique : ∀ first ∈ state.queue, ∀ second ∈ state.queue,
    first.order = second.order → first = second

variable {next : Int → List (Int × α)} {state later : State α} {entry : Waiting α}
  {rest : Array (Waiting α)}

namespace Counted

omit [Scalar α] in
theorem of_subset (counted : Counted state) (kept : ∀ entry ∈ later.queue, entry ∈ state.queue)
    (same : later.count = state.count) : Counted later where
  below := fun entry member => same ▸ counted.below entry (kept entry member)
  unique := fun first isFirst second isSecond =>
    counted.unique first (kept first isFirst) second (kept second isSecond)

omit [Scalar α] in
theorem relabel (counted : Counted state) (labels : Labels α) : Counted { state with labels } :=
  counted.of_subset (fun _ member => member) rfl

theorem enqueue (counted : Counted state) (cost : α) (region : Int) :
    Counted (Search.enqueue state cost region) := by
  have split : ∀ entry ∈ (Search.enqueue state cost region).queue,
      entry ∈ state.queue ∨ entry = ⟨cost, state.count, region⟩ :=
    fun entry member => Heap.mem_push.mp member
  constructor
  · intro entry member
    rcases split entry member with old | rfl
    · exact Nat.lt_succ_of_lt (counted.below entry old)
    · exact Nat.lt_succ_self _
  · intro first isFirst second isSecond same
    rcases split first isFirst with old | rfl
    · rcases split second isSecond with also | rfl
      · exact counted.unique first old second also same
      · exact absurd same (Nat.ne_of_lt (counted.below first old))
    · rcases split second isSecond with also | rfl
      · exact absurd same.symm (Nat.ne_of_lt (counted.below second also))
      · rfl

omit [Scalar α] in
/-- Nothing waits yet. -/
theorem ofNone (labels : Labels α) : Counted (⟨labels, [], #[], 0⟩ : State α) :=
  ⟨fun entry member => absurd member (Array.not_mem_empty entry),
    fun first member => absurd member (Array.not_mem_empty first)⟩

theorem begin (source : Nat) : Counted (Search.start (α := α) source) :=
  (ofNone _).enqueue Scalar.zero source

theorem relax (counted : Counted state) (source : Int) (reached : α) (arc : Int × α) :
    Counted (Search.relax source reached state arc) := by
  unfold Search.relax
  dsimp only
  split
  · exact (counted.relabel _).enqueue (reached + arc.2) arc.1
  · exact counted

theorem foldl_relax (counted : Counted state) (source : Int) (reached : α)
    (found : List (Int × α)) : Counted (found.foldl (Search.relax source reached) state) := by
  induction found generalizing state with
  | nil => exact counted
  | cons arc others hypothesis => exact hypothesis (counted.relax source reached arc)

/-- Whoever has had a turn is no longer waiting. -/
theorem pop (counted : Counted state)
    (popped : Heap.pop? Waiting.before state.queue = some (entry, rest)) :
    Counted { state with queue := rest } :=
  counted.of_subset (fun other member => (Heap.mem_of_pop? popped other).mpr (Or.inl member)) rfl

theorem settle (counted : Counted state)
    (popped : Heap.pop? Waiting.before state.queue = some (entry, rest)) :
    Counted (Search.settle state entry rest) :=
  (counted.pop popped).of_subset (fun _ member => member) rfl

theorem turn (counted : Counted state)
    (popped : Heap.pop? Waiting.before state.queue = some (entry, rest)) :
    Counted (Search.turn next state entry rest) :=
  (counted.settle popped).foldl_relax entry.region entry.cost _

end Counted

end Egress.Search
