import Mathlib.Logic.Equiv.Defs
import Egress.Proofs.Search.Arrival
import Egress.Proofs.Table
import Egress.Route

/-!
# Searches among renumbered regions

Regions are known by numbers, and numbers can be compared, but a search does not do so.  Waiting
entries are compared by cost and by the order of arrival, in which no two are equal, so it makes no
difference whether the numbers of the regions are compared after that or not.  Hence two searches
whose arcs correspond under a renumbering go on in step: each state of the one is the renumbered
state of the other, the places in the queue included.
-/

namespace Egress

variable {α : Type}

def Label.renumber (numbering : Equiv.Perm Int) (label : Label α) : Label α :=
  { label with previous := label.previous.map numbering }

namespace Labels

variable {numbering : Equiv.Perm Int}

/-- The labels of the renumbered regions, in the same order. -/
def renumber (numbering : Equiv.Perm Int) (labels : Labels α) : Labels α where
  entries := labels.entries.map fun entry => (numbering entry.1, entry.2.renumber numbering)
  distinct := by
    have distinct := labels.keys_nodup.map numbering.injective
    rw [Table.keys, List.map_map] at distinct
    rw [List.map_map]
    exact distinct

@[simp] theorem renumber_refl (labels : Labels α) : renumber (Equiv.refl Int) labels = labels := by
  apply Table.ext_entries
  refine (List.map_congr_left fun entry _ => ?_).trans (List.map_id _)
  rw [Label.renumber, Equiv.coe_refl, Option.map_id]
  rfl

theorem find?_renumber (labels : Labels α) (region : Int) :
    (renumber numbering labels).find? (numbering region) =
      (labels.find? region).map (Label.renumber numbering) := by
  rcases labels with ⟨entries, distinct⟩
  unfold renumber Table.find?
  dsimp only
  clear distinct
  induction entries with
  | nil => rfl
  | cons entry others hypothesis =>
    simp only [List.map_cons, Table.lookup, numbering.injective.eq_iff]
    split
    · rfl
    · exact hypothesis

theorem contains_renumber (labels : Labels α) (region : Int) :
    (renumber numbering labels).contains (numbering region) = labels.contains region := by
  unfold Table.contains
  rw [find?_renumber, Option.isSome_map]

theorem size_renumber (labels : Labels α) : (renumber numbering labels).size = labels.size :=
  List.length_map _

theorem insert_renumber (labels : Labels α) (region : Int) (label : Label α) :
    (renumber numbering labels).insert (numbering region) (label.renumber numbering) =
      renumber numbering (labels.insert region label) := by
  apply Table.ext_entries
  rcases labels with ⟨entries, distinct⟩
  unfold renumber Table.insert
  dsimp only
  clear distinct
  induction entries with
  | nil => rfl
  | cons entry others hypothesis =>
    simp only [List.map_cons, Table.place, numbering.injective.eq_iff]
    split
    · rfl
    · rw [List.map_cons, hypothesis]

theorem backtrack_renumber (labels : Labels α) (steps : Nat) (region : Int) (passed : List Int) :
    (renumber numbering labels).backtrack steps (numbering region) (passed.map numbering) =
      (labels.backtrack steps region passed).map numbering := by
  induction steps generalizing region passed with
  | zero => rfl
  | succ steps hypothesis =>
    simp only [backtrack, find?_renumber]
    cases labels.find? region with
    | none => rfl
    | some label =>
      simp only [Option.map_some, Option.bind_some, Label.renumber]
      cases label.previous with
      | none => rfl
      | some previous => exact hypothesis previous (region :: passed)

end Labels

namespace Search

variable [Scalar α]

/-! ## Comparing entries in full -/

/-- Compared by cost, then by the order of arrival, and then by the number of the region. -/
def Waiting.beforeInFull (first second : Waiting α) : Bool :=
  if first.cost ≤ second.cost ∧ second.cost ≤ first.cost then
    if first.order = second.order then decide (first.region < second.region)
    else decide (first.order < second.order)
  else decide (first.cost < second.cost)

section By

variable (before : Waiting α → Waiting α → Bool)

/-- Let a region wait in a queue that is ordered in another way. -/
def enqueueBy (state : State α) (cost : α) (region : Int) : State α :=
  { state with
    queue := Heap.push before state.queue ⟨cost, state.count, region⟩
    count := state.count + 1 }

def startBy (source : Nat) : State α :=
  enqueueBy before ⟨(∅ : Labels α).insert source ⟨Scalar.zero, none⟩, [], #[], 0⟩ Scalar.zero source

def relaxBy (source : Int) (reached : α) (state : State α) (arc : Int × α) : State α :=
  let cost := reached + arc.2
  if improves state.labels arc.1 cost then
    enqueueBy before { state with labels := state.labels.insert arc.1 ⟨cost, some source⟩ } cost
      arc.1
  else state

/-- A search that compares waiting entries in another way. -/
def runBy {ε : Type} (arcs : List Int → Int → Except ε (List (Int × α))) (goal : Option Int) :
    Nat → State α → Except ε (State α)
  | 0, state => .ok state
  | turns + 1, state =>
    match Heap.pop? before state.queue with
    | none => .ok state
    | some (next, queue) =>
      if state.settled.contains next.region then runBy arcs goal turns { state with queue }
      else
        let settled := next.region :: state.settled
        let state := { state with queue, settled }
        if goal = some next.region then .ok state
        else
          match arcs settled next.region with
          | .error fault => .error fault
          | .ok found =>
            runBy arcs goal turns (found.foldl (relaxBy before next.region next.cost) state)

section Turns

variable {before} {ε : Type} {arcs : List Int → Int → Except ε (List (Int × α))}
  {goal : Option Int} {state : State α} {entry : Waiting α} {rest : Array (Waiting α)}

theorem runBy_of_empty (popped : Heap.pop? before state.queue = none) (turns : Nat) :
    runBy before arcs goal (turns + 1) state = .ok state := by
  rw [runBy, popped]

theorem runBy_of_skipped (popped : Heap.pop? before state.queue = some (entry, rest))
    (again : entry.region ∈ state.settled) (turns : Nat) :
    runBy before arcs goal (turns + 1) state =
      runBy before arcs goal turns { state with queue := rest } := by
  rw [runBy, popped]
  exact if_pos (List.contains_iff_mem.mpr again)

theorem runBy_of_goal (popped : Heap.pop? before state.queue = some (entry, rest))
    (first : entry.region ∉ state.settled) (isGoal : goal = some entry.region) (turns : Nat) :
    runBy before arcs goal (turns + 1) state = .ok (settle state entry rest) := by
  rw [runBy, popped]
  exact (if_neg fun settled => first (List.contains_iff_mem.mp settled)).trans (if_pos isGoal)

theorem runBy_of_opened (popped : Heap.pop? before state.queue = some (entry, rest))
    (first : entry.region ∉ state.settled) (other : goal ≠ some entry.region) (turns : Nat) :
    runBy before arcs goal (turns + 1) state =
      (arcs (entry.region :: state.settled) entry.region).bind fun found =>
        runBy before arcs goal turns
          (found.foldl (relaxBy before entry.region entry.cost) (settle state entry rest)) := by
  rw [runBy, popped]
  refine (if_neg fun settled => first (List.contains_iff_mem.mp settled)).trans ?_
  rw [if_neg other]
  cases arcs (entry.region :: state.settled) entry.region <;> rfl

end Turns

end By

/-- The search is the one that compares entries by cost and order of arrival. -/
theorem runBy_before {ε : Type} (arcs : List Int → Int → Except ε (List (Int × α)))
    (goal : Option Int) (turns : Nat) (state : State α) :
    runBy Waiting.before arcs goal turns state = run arcs goal turns state := by
  induction turns generalizing state with
  | zero => rfl
  | succ turns hypothesis =>
    rw [runBy, run]
    cases Heap.pop? Waiting.before state.queue with
    | none => rfl
    | some taken =>
      dsimp only
      split
      · exact hypothesis _
      · split
        · rfl
        · cases arcs (taken.1.region :: state.settled) taken.1.region with
          | error fault => rfl
          | ok found => exact hypothesis _

/-! ## Renumbered states -/

def Waiting.renumber (numbering : Equiv.Perm Int) (entry : Waiting α) : Waiting α :=
  { entry with region := numbering entry.region }

def State.renumber (numbering : Equiv.Perm Int) (state : State α) : State α where
  labels := Labels.renumber numbering state.labels
  settled := state.settled.map numbering
  queue := state.queue.map (Waiting.renumber numbering)
  count := state.count

omit [Scalar α] in
@[simp] theorem State.renumber_refl (state : State α) :
    state.renumber (Equiv.refl Int) = state := by
  have sameEntries : state.queue.map (Waiting.renumber (Equiv.refl Int)) = state.queue :=
    Array.map_id _
  simp only [State.renumber, Labels.renumber_refl, Equiv.coe_refl, List.map_id, sameEntries]

/-- A comparison of entries that differs from the usual one only where the orders of arrival of two
entries are equal. -/
structure Agrees (before : Waiting α → Waiting α → Bool) : Prop where
  apart : ∀ first second, first.order ≠ second.order →
    before first second = Waiting.before first second
  self : ∀ entry, before entry entry = Waiting.before entry entry

theorem agrees_before : Agrees (Waiting.before (α := α)) := ⟨fun _ _ _ => rfl, fun _ => rfl⟩

theorem agrees_beforeInFull : Agrees (Waiting.beforeInFull (α := α)) where
  apart := by
    intro first second different
    unfold Waiting.beforeInFull Waiting.before
    rw [if_neg different]
  self := by
    intro entry
    unfold Waiting.beforeInFull Waiting.before
    rw [if_pos rfl]
    simp only [Int.lt_irrefl, Nat.lt_irrefl]

variable {before : Waiting α → Waiting α → Bool} {numbering : Equiv.Perm Int} {state : State α}

/-- Entries that wait together are compared alike, and renumbered ones, too. -/
theorem Agrees.renumber (agrees : Agrees before) (numbering : Equiv.Perm Int)
    (counted : Counted state) : ∀ first second, first ∈ state.queue → second ∈ state.queue →
      before (first.renumber numbering) (second.renumber numbering) =
        Waiting.before first second := by
  intro first second isFirst isSecond
  by_cases same : first.order = second.order
  · rw [counted.unique first isFirst second isSecond same]
    exact agrees.self _
  · exact agrees.apart _ _ same

section Agrees

variable (agrees : Agrees before)

include agrees

variable (numbering : Equiv.Perm Int)

theorem enqueueBy_renumber (counted : Counted state) (cost : α) (region : Int) :
    enqueueBy before (state.renumber numbering) cost (numbering region) =
      (enqueue state cost region).renumber numbering := by
  have compared := agrees.renumber numbering (counted.enqueue cost region)
  have fits : Heap.Fit (· ∈ (enqueue state cost region).queue) state.queue :=
    fun entry member => Heap.mem_push.mpr (Or.inl member)
  have pushed := Heap.push_map compared fits (Heap.mem_push.mpr (Or.inr rfl))
  exact congrArg (fun queue => State.mk _ _ queue _) pushed

theorem relaxBy_renumber (counted : Counted state) (source : Int) (reached : α) (arc : Int × α) :
    relaxBy before (numbering source) reached (state.renumber numbering) (numbering arc.1, arc.2) =
      (relax source reached state arc).renumber numbering := by
  have improved : improves (state.renumber numbering).labels (numbering arc.1) (reached + arc.2) =
      improves state.labels arc.1 (reached + arc.2) := by
    unfold improves
    rw [State.renumber, Labels.find?_renumber]
    cases state.labels.find? arc.1 <;> rfl
  unfold relaxBy relax
  dsimp only
  rw [improved]
  split
  · rw [← enqueueBy_renumber agrees numbering (counted.relabel _)]
    congr 1
    unfold State.renumber
    dsimp only
    rw [← Labels.insert_renumber]
    rfl
  · rfl

theorem foldl_relaxBy_renumber (counted : Counted state) (source : Int) (reached : α)
    (found : List (Int × α)) :
    (found.map fun arc => (numbering arc.1, arc.2)).foldl
        (relaxBy before (numbering source) reached) (state.renumber numbering) =
      (found.foldl (relax source reached) state).renumber numbering := by
  induction found generalizing state with
  | nil => rfl
  | cons arc others hypothesis =>
    rw [List.map_cons, List.foldl_cons, relaxBy_renumber agrees numbering counted]
    exact hypothesis (counted.relax source reached arc)

theorem startBy_renumber {source target : Nat} (same : numbering source = target) :
    startBy before target = (start (α := α) source).renumber numbering := by
  have labelled : Labels.renumber numbering ((∅ : Labels α).insert source ⟨Scalar.zero, none⟩) =
      (∅ : Labels α).insert target ⟨Scalar.zero, none⟩ := by
    rw [← Labels.insert_renumber, same]
    rfl
  have begun := enqueueBy_renumber agrees numbering
    (Counted.ofNone ((∅ : Labels α).insert source ⟨Scalar.zero, none⟩)) Scalar.zero source
  simp only [State.renumber, labelled, same, Array.map_empty, List.map_nil] at begun
  exact begun

/-- If the arcs correspond, both searches go on in step. -/
theorem runBy_renumber {ε : Type} {arcs opened : List Int → Int → Except ε (List (Int × α))}
    (correspond : ∀ settled region, opened (settled.map numbering) (numbering region) =
      (arcs settled region).map (List.map fun arc => (numbering arc.1, arc.2)))
    (goal : Option Int) (turns : Nat) (counted : Counted state) :
    runBy before opened (goal.map numbering) turns (state.renumber numbering) =
      (run arcs goal turns state).map (State.renumber numbering) := by
  rw [← runBy_before]
  induction turns generalizing state with
  | zero => rfl
  | succ turns hypothesis =>
    have taken : Heap.pop? before (state.renumber numbering).queue = _ :=
      Heap.pop?_map (agrees.renumber numbering counted) fun entry member => member
    cases popped : Heap.pop? Waiting.before state.queue with
    | none =>
      rw [popped] at taken
      rw [runBy_of_empty popped, runBy_of_empty taken]
      rfl
    | some found =>
      rcases found with ⟨entry, rest⟩
      rw [popped] at taken
      have again : numbering entry.region ∈ (state.renumber numbering).settled ↔
          entry.region ∈ state.settled := List.mem_map_of_injective numbering.injective
      have sought : goal.map numbering = some (numbering entry.region) ↔
          goal = some entry.region := (Option.map_injective numbering.injective).eq_iff' rfl
      by_cases settled : entry.region ∈ state.settled
      · rw [runBy_of_skipped popped settled, runBy_of_skipped taken (again.mpr settled)]
        exact hypothesis (counted.pop popped)
      · have unsettled := mt again.mp settled
        by_cases isGoal : goal = some entry.region
        · rw [runBy_of_goal popped settled isGoal,
            runBy_of_goal taken unsettled (sought.mpr isGoal)]
          rfl
        · rw [runBy_of_opened popped settled isGoal,
            runBy_of_opened taken unsettled (mt sought.mp isGoal)]
          have opens := correspond (entry.region :: state.settled) entry.region
          refine (congrArg (Except.bind · _) opens).trans ?_
          cases arcs (entry.region :: state.settled) entry.region with
          | error fault => rfl
          | ok found =>
            have begun := counted.settle popped
            have turned := foldl_relaxBy_renumber agrees numbering begun entry.region entry.cost
              found
            exact (congrArg _ turned).trans
              (hypothesis (begun.foldl_relax entry.region entry.cost found))

end Agrees

end Search

end Egress
