import Mathlib.Algebra.Order.BigOperators.Group.List
import Mathlib.Algebra.Order.Ring.Rat
import Mathlib.Data.Int.Interval
import Mathlib.Data.Set.Finite.Lemmas
import Mathlib.Data.Set.Finite.List
import Mathlib.Order.Filter.AtTopBot.Basic
import Mathlib.Order.Filter.Finite
import Mathlib.Tactic.Linarith
import Egress.Proofs.Walk

/-!
# No endless journeys

An agent that always takes the first connection of a cheapest walk to its goal arrives, even if the
weights change all the time, provided that the weights of some connections come to rest: of those
that lead to regions which the agent does not visit again and again.

Suppose that the agent travels for ever.  From some time on it visits only recurrent regions, and
the connections that lead out of these have their final weights.  Every cheapest walk leaves the
recurrent regions for good somewhere, and the last part of it is a cheapest way out, whose cost no
longer changes.  Take a recurrent region from which the way out is cheapest of all.  When the agent
is there again, its cheapest walk contains no less than a way out and costs no more than this one,
so it is a way out from the first connection on.  The agent takes this connection, and finds itself
in a region that it should not visit any more.
-/

namespace Egress.Network

open Filter

/-- The sum of the weights of a walk. -/
def cost (weight : Connection Rat → Rat) (walk : List (Connection Rat)) : Rat :=
  (walk.map weight).sum

/-- A region that is visited again and again. -/
def Recurrent (place : Nat → Int) (region : Int) : Prop :=
  ∃ᶠ time in atTop, place time = region

/-- A connection that leads to no region which is visited again and again. -/
def LeadsAway (place : Nat → Int) (connection : Connection Rat) : Prop :=
  ∀ next, connection.destination = some next → ¬ Recurrent place next

/-- A journey that goes on for ever, always by the first connection of a cheapest walk to a goal,
through weights that change.  The weights of connections that lead away come to rest. -/
structure Endless (network : Network Rat) (known : Int → Prop) (goal : Int) (place : Nat → Int)
    (weight : Nat → Connection Rat → Rat) : Prop where
  inside : ∀ time, 0 ≤ place time ∧ place time < network.size
  away : ∀ time, place time ≠ goal
  positive : ∀ time, ∀ connection ∈ network.connections, 0 < weight time connection
  onward : ∀ time, ∃ connection rest, connection.destination = some (place (time + 1)) ∧
    network.Walk known (place time) (connection :: rest) goal ∧
    ∀ other, network.Walk known (place time) other goal →
      cost (weight time) (connection :: rest) ≤ cost (weight time) other
  resting : ∀ connection ∈ network.connections, LeadsAway place connection →
    ∃ value, ∀ᶠ time in atTop, weight time connection = value

variable {network : Network Rat} {known : Int → Prop} {goal : Int} {place : Nat → Int}
  {weight : Nat → Connection Rat → Rat}

theorem cost_append (weight : Connection Rat → Rat) (front tail : List (Connection Rat)) :
    cost weight (front ++ tail) = cost weight front + cost weight tail := by
  simp only [cost, List.map_append, List.sum_append]

theorem cost_concat (weight : Connection Rat → Rat) (walk : List (Connection Rat))
    (connection : Connection Rat) :
    cost weight (walk ++ [connection]) = cost weight walk + weight connection := by
  rw [cost_append]
  simp only [cost, List.map_cons, List.map_nil, List.sum_singleton]

theorem cost_congr {first second : Connection Rat → Rat} {walk : List (Connection Rat)}
    (same : ∀ connection ∈ walk, first connection = second connection) :
    cost first walk = cost second walk := by
  unfold cost
  rw [List.map_congr_left same]

/-- A walk that costs nothing is no walk at all. -/
theorem eq_nil_of_cost_le_zero {weight : Connection Rat → Rat} {walk : List (Connection Rat)}
    (positive : ∀ connection ∈ walk, 0 < weight connection) (free : cost weight walk ≤ 0) :
    walk = [] := by
  cases walk with
  | nil => rfl
  | cons connection rest =>
    have first := positive connection List.mem_cons_self
    have others : 0 ≤ (rest.map weight).sum := by
      apply List.sum_nonneg
      intro value member
      rcases List.mem_map.mp member with ⟨other, isOther, rfl⟩
      exact le_of_lt (positive other (List.mem_cons_of_mem _ isOther))
    simp only [cost, List.map_cons, List.sum_cons] at free
    linarith

theorem Walk.mem_connections {start region : Int} {walk : List (Connection Rat)}
    (isWalk : network.Walk known start walk region) :
    ∀ connection ∈ walk, connection ∈ network.connections := by
  induction isWalk with
  | stay => exact fun connection member => absurd member List.not_mem_nil
  | follow isWalk isKnown isConnection isTarget hypothesis =>
    intro other member
    rcases List.mem_append.mp member with earlier | last
    · exact hypothesis other earlier
    · exact List.mem_singleton.mp last ▸ isConnection

theorem Walk.append {start middle region : Int} {front tail : List (Connection Rat)}
    (isFront : network.Walk known start front middle)
    (isTail : network.Walk known middle tail region) :
    network.Walk known start (front ++ tail) region := by
  induction isTail with
  | stay => rwa [List.append_nil]
  | follow isTail isKnown member isTarget hypothesis =>
    rw [← List.append_assoc]
    exact hypothesis.follow isKnown member isTarget

/-- A way out: a walk to the goal all of whose connections lead away. -/
def WayOut (network : Network Rat) (known : Int → Prop) (goal : Int) (place : Nat → Int)
    (start : Int) (tail : List (Connection Rat)) : Prop :=
  network.Walk known start tail goal ∧ ∀ connection ∈ tail, LeadsAway place connection

/-- A walk from a recurrent region ends in one or has a last one, from which it leads away. -/
theorem Walk.last_recurrent {start region : Int} {walk : List (Connection Rat)}
    (recurrent : Recurrent place start) (isWalk : network.Walk known start walk region) :
    Recurrent place region ∨ ∃ front tail last, walk = front ++ tail ∧
      network.Walk known start front last ∧ Recurrent place last ∧
      WayOut network known region place last tail := by
  induction isWalk with
  | stay => exact Or.inl recurrent
  | @follow walk connection target isWalk isKnown member isTarget hypothesis =>
    by_cases again : Recurrent place target
    · exact Or.inl again
    · have leads : LeadsAway place connection := by
        intro next isNext
        cases isTarget.symm.trans isNext
        exact again
      rcases hypothesis with sourceRecurrent |
        ⟨front, tail, last, rfl, isFront, isLast, isTail, away⟩
      · refine Or.inr ⟨walk, [connection], connection.source, rfl, isWalk, sourceRecurrent,
          Walk.stay.follow isKnown member isTarget, ?_⟩
        intro other isOther
        exact List.mem_singleton.mp isOther ▸ leads
      · refine Or.inr ⟨front, tail ++ [connection], last, List.append_assoc _ _ _, isFront, isLast,
          isTail.follow isKnown member isTarget, ?_⟩
        intro other isOther
        rcases List.mem_append.mp isOther with earlier | final
        · exact away other earlier
        · exact List.mem_singleton.mp final ▸ leads

/-- From some time on, only recurrent regions are visited. -/
theorem eventually_recurrent (inside : ∀ time, 0 ≤ place time ∧ place time < network.size) :
    ∀ᶠ time in atTop, Recurrent place (place time) := by
  have each : ∀ region ∈ Finset.Ico (0 : Int) network.size,
      ∀ᶠ time in atTop, ¬ Recurrent place region → place time ≠ region := by
    intro region _
    by_cases recurrent : Recurrent place region
    · exact Eventually.of_forall fun _ notRecurrent => absurd recurrent notRecurrent
    · exact (not_frequently.mp recurrent).mono fun _ different _ => different
  apply ((eventually_all_finset _).mpr each).mono
  intro time different
  by_contra notRecurrent
  exact different (place time) (Finset.mem_Ico.mpr (inside time)) notRecurrent rfl

namespace Endless

theorem goal_notRecurrent (endless : Endless network known goal place weight) :
    ¬ Recurrent place goal :=
  not_frequently.mpr (Eventually.of_forall endless.away)

/-- From some time on, the connections that lead away have their final weights. -/
theorem exists_final (endless : Endless network known goal place weight) :
    ∃ final : Connection Rat → Rat, ∀ᶠ time in atTop, ∀ connection ∈ network.connections,
      LeadsAway place connection → weight time connection = final connection := by
  choose! final isFinal using endless.resting
  refine ⟨final, ?_⟩
  apply (eventually_all_finite (List.finite_toSet network.connections)).mpr
  intro connection member
  by_cases leads : LeadsAway place connection
  · exact (isFinal connection member leads).mono fun _ same _ => same
  · exact Eventually.of_forall fun _ impossible => absurd impossible leads

/-- What holds from some time on, for good. -/
structure Late (network : Network Rat) (place : Nat → Int) (weight : Nat → Connection Rat → Rat)
    (final : Connection Rat → Rat) (start : Nat) : Prop where
  recurrent : ∀ time, start ≤ time → Recurrent place (place time)
  rests : ∀ time, start ≤ time → ∀ connection ∈ network.connections, LeadsAway place connection →
    weight time connection = final connection

theorem exists_late (endless : Endless network known goal place weight) :
    ∃ final start, Late network place weight final start := by
  rcases endless.exists_final with ⟨final, isFinal⟩
  rcases eventually_atTop.mp ((eventually_recurrent endless.inside).and isFinal) with ⟨start, late⟩
  exact ⟨final, start, fun time reached => (late time reached).1,
    fun time reached => (late time reached).2⟩

/-- A cheapest way out, at final weights. -/
def Cheapest (network : Network Rat) (known : Int → Prop) (goal : Int) (place : Nat → Int)
    (final : Connection Rat → Rat) (region : Int) (tail : List (Connection Rat)) : Prop :=
  WayOut network known goal place region tail ∧
    ∀ other, WayOut network known goal place region other → cost final tail ≤ cost final other

/-- A way out costs the same at all late times. -/
theorem Late.cost_wayOut {final : Connection Rat → Rat} {start : Nat}
    (late : Late network place weight final start) {region : Int} {tail : List (Connection Rat)}
    (out : WayOut network known goal place region tail) {time : Nat} (reached : start ≤ time) :
    cost (weight time) tail = cost final tail := by
  apply cost_congr
  intro connection member
  exact late.rests time reached connection (out.1.mem_connections connection member)
    (out.2 connection member)

/-- The walk that the agent begins at a late time ends with a cheapest way out. -/
theorem exists_cheapest (endless : Endless network known goal place weight)
    {final : Connection Rat → Rat} {start : Nat} (late : Late network place weight final start)
    {time : Nat} (reached : start ≤ time) :
    ∃ connection front tail last, connection.destination = some (place (time + 1)) ∧
      network.Walk known (place time) front last ∧ Recurrent place last ∧
      Cheapest network known goal place final last tail ∧
      (front ++ tail).head? = some connection ∧
      ∀ other, network.Walk known (place time) other goal →
        cost (weight time) (front ++ tail) ≤ cost (weight time) other := by
  rcases endless.onward time with ⟨connection, rest, isNext, isWalk, least⟩
  rcases isWalk.last_recurrent (late.recurrent time reached) with goalRecurrent |
    ⟨front, tail, last, whole, isFront, isLast, out⟩
  · exact absurd goalRecurrent endless.goal_notRecurrent
  · rw [whole] at least
    refine ⟨connection, front, tail, last, isNext, isFront, isLast, ⟨out, ?_⟩, ?_, least⟩
    · intro other isOther
      have exchanged := least (front ++ other) (isFront.append isOther.1)
      rw [cost_append, cost_append, late.cost_wayOut out reached,
        late.cost_wayOut isOther reached] at exchanged
      linarith
    · rw [← whole]
      rfl

/-- Of all regions that are visited again and again, one has the cheapest way out. -/
theorem exists_nearest (endless : Endless network known goal place weight)
    {final : Connection Rat → Rat} {start : Nat} (late : Late network place weight final start) :
    ∃ nearest best, Recurrent place nearest ∧
      Cheapest network known goal place final nearest best ∧
      ∀ last tail, Recurrent place last → Cheapest network known goal place final last tail →
        cost final best ≤ cost final tail := by
  have finite : {region | Recurrent place region ∧
      ∃ tail, Cheapest network known goal place final region tail}.Finite := by
    apply (Finset.finite_toSet (Finset.Ico (0 : Int) network.size)).subset
    rintro region ⟨recurrent, -⟩
    rcases recurrent.exists with ⟨time, rfl⟩
    exact Finset.mem_coe.mpr (Finset.mem_Ico.mpr (endless.inside time))
  have isExit : ∀ region, (∃ tail, Cheapest network known goal place final region tail) →
      ∃ tail, Cheapest network known goal place final region tail := fun _ exit => exit
  choose! best isBest using isExit
  rcases endless.exists_cheapest late (Nat.le_refl start) with
    ⟨-, -, tail, last, -, -, isLast, cheapest, -⟩
  rcases Set.exists_min_image _ (fun region => cost final (best region)) finite
    ⟨last, isLast, tail, cheapest⟩ with ⟨nearest, ⟨recurrent, exit⟩, minimal⟩
  refine ⟨nearest, best nearest, recurrent, isBest nearest exit, ?_⟩
  intro other way isRecurrent isCheapest
  have lowest := minimal other ⟨isRecurrent, way, isCheapest⟩
  have alike := (isBest other ⟨way, isCheapest⟩).2 way isCheapest.1
  exact lowest.trans alike

/-- There is no endless journey. -/
theorem not_endless (endless : Endless network known goal place weight) : False := by
  rcases endless.exists_late with ⟨final, start, late⟩
  rcases endless.exists_nearest late with ⟨nearest, best, isRecurrent, isBest, minimal⟩
  rcases frequently_atTop.mp isRecurrent start with ⟨time, reached, isThere⟩
  -- the walk begun there is a way out from its first connection on
  rcases endless.exists_cheapest late reached with
    ⟨connection, front, tail, last, isNext, isFront, isLast, cheapest, isHead, least⟩
  have free : cost (weight time) front ≤ 0 := by
    have notMore := least best (isThere ▸ isBest.1.1)
    have lowest := minimal last tail isLast cheapest
    rw [cost_append, late.cost_wayOut cheapest.1 reached,
      late.cost_wayOut isBest.1 reached] at notMore
    linarith
  have nowhere : front = [] := eq_nil_of_cost_le_zero
    (fun other member => endless.positive time other (isFront.mem_connections other member)) free
  subst nowhere
  have leads := cheapest.1.2 connection (List.mem_of_head? isHead)
  exact leads _ isNext (late.recurrent (time + 1) (Nat.le_succ_of_le reached))

end Endless

end Egress.Network
