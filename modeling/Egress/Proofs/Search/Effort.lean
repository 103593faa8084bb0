import Egress.Proofs.Search.Turns
import Egress.Proofs.Search.WayBack

/-!
# The effort of a search

A search goes on in steps, each of which takes one entry from the queue.  What can still come grows
smaller with every step: an entry for a settled region is used up, and a region that is settled
brings in no more entries than connections leave it.  So the steps are counted beforehand, and a
search that is allowed that many is not cut short.

Opening a region may fail, and then the search ends with the fault.  Nothing is asked of weights,
nor of what they add up to.  The way back from a label is short for the same reason: it passes
regions that were opened, each of them once.
-/

namespace Egress.Search

variable {α ε : Type} [Scalar α]

/-- What a step of a search comes to. -/
inductive Step (ε α : Type) where
  /-- The search is over, and so many entries were taken in its last step. -/
  | stop (result : Except ε (State α)) (taken : Nat)
  /-- One entry was taken, and this is the state after it. -/
  | onward (after : State α)

/-- Take an entry from the queue, if there is one. -/
def step (arcs : List Int → Int → Except ε (List (Int × α))) (goal : Option Int)
    (state : State α) : Step ε α :=
  match Heap.pop? Waiting.before state.queue with
  | none => .stop (.ok state) 0
  | some (entry, rest) =>
    if state.settled.contains entry.region then .onward { state with queue := rest }
    else if goal = some entry.region then .stop (.ok (settle state entry rest)) 1
    else
      match arcs (settle state entry rest).settled entry.region with
      | .error fault => .stop (.error fault) 1
      | .ok found =>
        .onward (found.foldl (relax entry.region entry.cost) (settle state entry rest))

/-- How many entries a search takes from the queue. -/
def pops (arcs : List Int → Int → Except ε (List (Int × α))) (goal : Option Int) :
    Nat → State α → Nat
  | 0, _ => 0
  | turns + 1, state =>
    match step arcs goal state with
    | .stop _ taken => taken
    | .onward after => pops arcs goal turns after + 1

variable {arcs : List Int → Int → Except ε (List (Int × α))} {goal : Option Int}
  {next : Int → List (Int × α)} {domain : Finset Int} {start : Int} {state after final : State α}

/-- A search is its steps, one after another. -/
theorem run_step (turns : Nat) (state : State α) :
    run arcs goal (turns + 1) state =
      match step arcs goal state with
      | .stop result _ => result
      | .onward after => run arcs goal turns after := by
  rw [run, step]
  cases Heap.pop? Waiting.before state.queue with
  | none => rfl
  | some taken =>
    rcases taken with ⟨entry, rest⟩
    dsimp only
    by_cases again : state.settled.contains entry.region = true
    · rw [if_pos again, if_pos again]
    · rw [if_neg again, if_neg again]
      by_cases isGoal : goal = some entry.region
      · rw [if_pos isGoal, if_pos isGoal]
        rfl
      · rw [if_neg isGoal, if_neg isGoal]
        change (match arcs (settle state entry rest).settled entry.region with
          | .error fault => _
          | .ok found => _) = _
        cases arcs (settle state entry rest).settled entry.region <;> rfl

/-- A search is over when nothing waits, when the goal has its turn, or when a region cannot be
opened. -/
theorem stop_cases {result : Except ε (State α)} {taken : Nat}
    (stopped : step arcs goal state = .stop result taken) :
    (state.queue.size = 0 ∧ taken = 0 ∧ result = .ok state) ∨
      ∃ entry rest, Heap.pop? Waiting.before state.queue = some (entry, rest) ∧
        entry.region ∉ state.settled ∧ taken = 1 ∧
        ((goal = some entry.region ∧ result = .ok (settle state entry rest)) ∨
          ∃ fault, result = .error fault) := by
  unfold step at stopped
  split at stopped
  · rename_i nothing
    cases stopped
    exact Or.inl ⟨empty_of_pop? nothing, rfl, rfl⟩
  · rename_i entry rest popped
    refine Or.inr ⟨entry, rest, popped, ?_⟩
    split at stopped
    · cases stopped
    · rename_i fresh
      have first : entry.region ∉ state.settled := mt List.contains_iff_mem.mpr fresh
      split at stopped
      · rename_i isGoal
        cases stopped
        exact ⟨first, rfl, Or.inl ⟨isGoal, rfl⟩⟩
      · split at stopped
        · rename_i fault _
          cases stopped
          exact ⟨first, rfl, Or.inr ⟨fault, rfl⟩⟩
        · cases stopped

/-- The arcs from a region are those to regions that are not settled, if it can be opened. -/
def Follows (arcs : List Int → Int → Except ε (List (Int × α))) (next : Int → List (Int × α)) :
    Prop :=
  ∀ settled region found, arcs settled region = .ok found → found = ahead next settled region

/-- A search goes on after an entry for a settled region, and after a full turn of a region other
than the goal. -/
theorem onward_cases (follows : Follows arcs next) (onward : step arcs goal state = .onward after) :
    ∃ entry rest, Heap.pop? Waiting.before state.queue = some (entry, rest) ∧
      ((entry.region ∈ state.settled ∧ after = { state with queue := rest }) ∨
        entry.region ∉ state.settled ∧ goal ≠ some entry.region ∧
          (∃ settled found, arcs settled entry.region = .ok found) ∧
          after = turn next state entry rest) := by
  unfold step at onward
  split at onward
  · cases onward
  · rename_i entry rest popped
    refine ⟨entry, rest, popped, ?_⟩
    split at onward
    · rename_i again
      cases onward
      exact Or.inl ⟨List.contains_iff_mem.mp again, rfl⟩
    · rename_i fresh
      split at onward
      · cases onward
      · rename_i other
        split at onward
        · cases onward
        · rename_i found opened
          cases onward
          refine Or.inr ⟨mt List.contains_iff_mem.mpr fresh, other, ⟨_, found, opened⟩, ?_⟩
          rw [follows _ _ found opened]
          rfl

/-! ## What every step keeps -/

/-- Where a search has got to: the settled regions were opened, and the goal is not among them. -/
structure Course (arcs : List Int → Int → Except ε (List (Int × α))) (goal : Option Int)
    (next : Int → List (Int × α)) (domain : Finset Int) (start : Int) (state : State α) :
    Prop where
  rooted : Rooted next (· ∈ domain) start state
  opened : ∀ region ∈ state.settled, ∃ settled found, arcs settled region = .ok found
  underway : ∀ region ∈ state.settled, goal ≠ some region

theorem Course.begin {source : Nat} (inside : (source : Int) ∈ domain) :
    Course arcs goal next domain source (Search.start source) where
  rooted := .begin inside
  opened _ member := absurd member List.not_mem_nil
  underway _ member := absurd member List.not_mem_nil

section Course

variable (follows : Follows arcs next)
  (closed : ∀ region ∈ domain, ∀ arc ∈ next region, arc.1 ∈ domain)

include follows closed

theorem Course.onward (course : Course arcs goal next domain start state)
    (onward : step arcs goal state = .onward after) :
    Course arcs goal next domain start after ∧
      pending next domain after < pending next domain state := by
  rcases onward_cases follows onward with
    ⟨entry, rest, popped, ⟨again, rfl⟩ | ⟨first, other, opened, rfl⟩⟩
  · exact ⟨⟨course.rooted.skip popped again, course.opened, course.underway⟩, pending_skip popped⟩
  · have inside := course.rooted.waiting_inside entry
      ((Heap.mem_of_pop? popped entry).mpr (Or.inr rfl))
    have settled : (turn next state entry rest).settled = entry.region :: state.settled :=
      foldl_relax_settled _ _ _ _
    refine ⟨⟨course.rooted.turn closed popped first, ?_, ?_⟩, pending_turn popped first inside⟩
    · rw [settled]
      exact List.forall_mem_cons.mpr ⟨opened, course.opened⟩
    · rw [settled]
      exact List.forall_mem_cons.mpr ⟨other, course.underway⟩

/-- A search takes no more entries than can come. -/
theorem Course.pops_le (course : Course arcs goal next domain start state) (turns : Nat) :
    pops arcs goal turns state ≤ pending next domain state := by
  induction turns generalizing state with
  | zero => exact Nat.zero_le _
  | succ turns hypothesis =>
    rw [pops]
    split
    · rename_i result taken stopped
      rcases stop_cases stopped with ⟨-, none, -⟩ | ⟨entry, rest, popped, -, one, -⟩
      · omega
      · have size := Heap.size_of_pop? popped
        unfold pending
        omega
    · rename_i after onward
      rcases course.onward follows closed onward with ⟨afterwards, fewer⟩
      have later := hypothesis afterwards
      omega

/-- Where a search ends: on its course, or with the goal settled in the last step. -/
theorem Course.run (course : Course arcs goal next domain start state) {turns : Nat}
    (ended : Search.run arcs goal turns state = .ok final) :
    Course arcs goal next domain start final ∨
      ∃ last entry rest, Course arcs goal next domain start last ∧
        Heap.pop? Waiting.before last.queue = some (entry, rest) ∧
        entry.region ∉ last.settled ∧ goal = some entry.region ∧
        final = settle last entry rest := by
  induction turns generalizing state with
  | zero =>
    cases ended
    exact Or.inl course
  | succ turns hypothesis =>
    rw [run_step] at ended
    split at ended
    · rename_i stopped
      subst ended
      rcases stop_cases stopped with ⟨-, -, same⟩ | ⟨entry, rest, popped, first, -, same⟩
      · cases same
        exact Or.inl course
      · rcases same with ⟨isGoal, same⟩ | ⟨fault, impossible⟩
        · cases same
          exact Or.inr ⟨state, entry, rest, course, popped, first, isGoal, rfl⟩
        · cases impossible
    · rename_i onward
      exact hypothesis (course.onward follows closed onward).1 ended

/-- No region is settled twice. -/
theorem Course.distinct (course : Course arcs goal next domain start state) {turns : Nat}
    (ended : Search.run arcs goal turns state = .ok final) : final.settled.Nodup := by
  rcases course.run follows closed ended with
    onCourse | ⟨last, entry, rest, onCourse, -, first, -, rfl⟩
  · exact onCourse.rooted.distinct
  · exact List.nodup_cons.mpr ⟨first, onCourse.rooted.distinct⟩

end Course

/-- A search that does not use up its turns is not changed by another one, and has come to its end:
nothing waits any more, or the goal is settled. -/
theorem run_of_few {turns : Nat} (few : pops arcs goal (turns + 1) state ≤ turns) :
    run arcs goal (turns + 1) state = run arcs goal turns state ∧
      ∀ final, run arcs goal turns state = .ok final →
        final.queue.size = 0 ∨ ∃ region ∈ final.settled, goal = some region := by
  induction turns generalizing state with
  | zero =>
    -- A step that may not take an entry finds none.
    rw [pops] at few
    rw [run_step]
    split at few
    · rename_i result taken stopped
      rcases stop_cases stopped with ⟨empty, -, rfl⟩ | ⟨entry, rest, -, -, one, -⟩
      · refine ⟨rfl, ?_⟩
        rintro final ⟨⟩
        exact Or.inl empty
      · omega
    · omega
  | succ turns hypothesis =>
    rw [pops] at few
    rw [run_step (turns + 1), run_step turns]
    split at few
    · rename_i result taken stopped
      refine ⟨rfl, fun final ended => ?_⟩
      subst ended
      rcases stop_cases stopped with ⟨empty, -, same⟩ | ⟨entry, rest, -, -, -, same⟩
      · cases same
        exact Or.inl empty
      · rcases same with ⟨isGoal, same⟩ | ⟨fault, impossible⟩
        · cases same
          exact Or.inr ⟨entry.region, List.mem_cons_self, isGoal⟩
        · cases impossible
    · exact hypothesis (by omega)

/-! ## Ways back -/

/-- Labels lead back to the start and no further. -/
theorem Rooted.getLast?_of_leadBack {inside : Int → Prop} (rooted : Rooted next inside start state)
    {regions : List Int} (leads : state.labels.LeadBack regions) :
    regions.getLast? = some start := by
  induction leads with
  | @origin region label found isOrigin =>
    by_contra different
    rcases rooted.led region label found fun same => different (congrArg some same) with
      ⟨previous, isPrevious, -⟩
    cases isOrigin.symm.trans isPrevious
  | further found isPrevious leads hypothesis =>
    rw [List.getLast?_cons_cons]
    exact hypothesis

/-- The way back from a label is no longer than the list of places that a search can open or stop
at. -/
theorem Course.wayBack (follows : Follows arcs next)
    (closed : ∀ region ∈ domain, ∀ arc ∈ next region, arc.1 ∈ domain)
    (course : Course arcs goal next domain start state) {turns : Nat}
    (ended : Search.run arcs goal turns state = .ok final)
    (finished : final.queue.size = 0 ∨ ∃ region ∈ final.settled, goal = some region)
    {places : List Int} (isGoal : ∀ region, goal = some region → region ∈ places)
    (isOpened : ∀ settled region found, arcs settled region = .ok found → region ∈ places)
    {region : Int} {label : Label α} (isLabel : final.labels.find? region = some label) :
    ∃ back, final.labels.LeadBack (region :: back) ∧ (region :: back).getLast? = some start ∧
      (region :: back).Nodup ∧ back.length + 1 ≤ places.length := by
  have placed : ∀ {reached : State α}, Course arcs goal next domain start reached →
      ∀ passed ∈ reached.settled, passed ∈ places := by
    intro reached onCourse passed isSettled
    rcases onCourse.opened passed isSettled with ⟨settled, found, opened⟩
    exact isOpened settled passed found opened
  rcases course.run follows closed ended with
    onCourse | ⟨last, entry, rest, onCourse, popped, first, sought, rfl⟩
  · have empty : final.queue.size = 0 := by
      refine finished.resolve_right ?_
      rintro ⟨goal, isSettled, sought⟩
      exact onCourse.underway goal isSettled sought
    have settled : region ∈ final.settled := by
      refine (onCourse.rooted.waits region label isLabel).resolve_right ?_
      rintro ⟨entry, member, -⟩
      rw [Array.eq_empty_of_size_eq_zero empty] at member
      exact Array.not_mem_empty entry member
    rcases onCourse.rooted.wayBack region label isLabel with ⟨back, leads, distinct, within⟩
    refine ⟨back, leads, onCourse.rooted.getLast?_of_leadBack leads, distinct, ?_⟩
    exact (distinct.subperm (List.cons_subset.mpr ⟨placed onCourse region settled,
      fun passed member => placed onCourse passed (within passed member)⟩)).length_le
  · -- The goal takes the place of the region, which need not be settled.
    rcases onCourse.rooted.wayBack region label isLabel with ⟨back, leads, distinct, within⟩
    have apart : (entry.region :: back).Nodup :=
      List.nodup_cons.mpr ⟨fun member => first (within _ member), distinct.of_cons⟩
    refine ⟨back, leads, onCourse.rooted.getLast?_of_leadBack leads, distinct, ?_⟩
    exact (apart.subperm (List.cons_subset.mpr ⟨isGoal entry.region sought,
      fun passed member => placed onCourse passed (within passed member)⟩)).length_le

end Egress.Search
