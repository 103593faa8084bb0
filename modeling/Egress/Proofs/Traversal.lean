import Mathlib.Data.List.Forall2

/-!
# Computations that may fail

A computation in two parts succeeds exactly if both parts do, and a traversal if it succeeds on
every entry.  So the faults of either are those of its parts.
-/

namespace Egress

variable {ε β γ : Type}

theorem bind_eq_ok {first : Except ε β} {second : β → Except ε γ} {result : γ} :
    first.bind second = .ok result ↔ ∃ value, first = .ok value ∧ second value = .ok result := by
  cases first with
  | error fault =>
    constructor
    · intro impossible
      cases impossible
    · rintro ⟨value, impossible, -⟩
      cases impossible
  | ok value =>
    constructor
    · intro succeeded
      exact ⟨value, rfl, succeeded⟩
    · rintro ⟨other, same, succeeded⟩
      cases same
      exact succeeded

/-- What a computation gives that is seen to succeed. -/
theorem eq_ok_of_isOk {computed : Except ε β} (succeeded : computed.isOk = true) (fallback : β) :
    computed = .ok (computed.toOption.getD fallback) := by
  cases computed with
  | error fault => cases succeeded
  | ok value => rfl

/-- A computation gives what a view of its result shows. -/
theorem exists_of_view {computed : Except ε β} {view : β → γ} {seen : γ}
    (shown : computed.toOption.map view = some seen) :
    ∃ value, computed = .ok value ∧ view value = seen := by
  cases computed with
  | error fault => cases shown
  | ok value => exact ⟨value, rfl, Option.some.inj shown⟩

/-- What a traversal finds, entry by entry. -/
theorem mapM_eq_ok_iff {entries : List β} {visit : β → Except ε γ} {found : List γ} :
    entries.mapM visit = .ok found ↔
      List.Forall₂ (fun entry value => visit entry = .ok value) entries found := by
  induction entries generalizing found with
  | nil =>
    constructor
    · intro nothing
      cases nothing
      exact .nil
    · intro nothing
      cases nothing
      rfl
  | cons entry others hypothesis =>
    rw [List.mapM_cons, List.forall₂_cons_left_iff]
    constructor
    · intro succeeded
      rcases bind_eq_ok.mp succeeded with ⟨value, visited, rest⟩
      rcases bind_eq_ok.mp rest with ⟨values, traversed, same⟩
      cases same
      exact ⟨value, values, visited, hypothesis.mp traversed, rfl⟩
    · rintro ⟨value, values, visited, matched, rfl⟩
      rw [visited, hypothesis.mpr matched]
      rfl

/-- What a traversal finds if each visit is known to succeed. -/
theorem mapM_of_values {entries : List β} {visit : β → Except ε γ} {value : β → γ}
    (visited : ∀ entry ∈ entries, visit entry = .ok (value entry)) :
    entries.mapM visit = .ok (entries.map value) := by
  rw [mapM_eq_ok_iff, List.forall₂_map_right_iff, List.forall₂_same]
  exact visited

/-- A traversal succeeds if each visit does. -/
theorem mapM_of_forall {entries : List β} {visit : β → Except ε γ} {expected : β → γ → Prop}
    (visited : ∀ entry ∈ entries, ∃ value, visit entry = .ok value ∧ expected entry value) :
    ∃ found, entries.mapM visit = .ok found ∧ List.Forall₂ expected entries found := by
  induction entries with
  | nil => exact ⟨[], rfl, .nil⟩
  | cons entry others hypothesis =>
    rcases visited entry List.mem_cons_self with ⟨value, isValue, asExpected⟩
    rcases hypothesis fun other member => visited other (List.mem_cons_of_mem _ member) with
      ⟨values, traversed, matched⟩
    refine ⟨value :: values, ?_, .cons asExpected matched⟩
    rw [List.mapM_cons, isValue, traversed]
    rfl

/-- Traversals whose visits correspond find what corresponds, or fail with one fault. -/
theorem mapM_map_of_forall₂ {δ : Type} {related : β → δ → Prop} {entries : List β}
    {others : List δ} {visit : β → Except ε γ} {call : δ → Except ε γ} {change : γ → γ}
    (matched : List.Forall₂ related entries others)
    (same : ∀ entry other, related entry other → call other = (visit entry).map change) :
    others.mapM call = (entries.mapM visit).map (List.map change) := by
  induction matched with
  | nil => rfl
  | @cons entry other entries others isRelated _ hypothesis =>
    rw [List.mapM_cons, List.mapM_cons, same entry other isRelated, hypothesis]
    cases visit entry with
    | error fault => rfl
    | ok value => cases entries.mapM visit <;> rfl

/-- Every entry found belongs to an entry visited. -/
theorem exists_of_forall₂ {expected : β → γ → Prop} {entries : List β} {found : List γ}
    (matched : List.Forall₂ expected entries found) :
    ∀ value ∈ found, ∃ entry ∈ entries, expected entry value := by
  induction matched with
  | nil => exact fun value member => absurd member List.not_mem_nil
  | cons asExpected rest hypothesis =>
    intro value member
    rcases List.mem_cons.mp member with rfl | later
    · exact ⟨_, List.mem_cons_self, asExpected⟩
    · rcases hypothesis value later with ⟨entry, isEntry, others⟩
      exact ⟨entry, List.mem_cons_of_mem _ isEntry, others⟩

/-- What a traversal finds if each visit gives something that shows what was visited. -/
theorem mapM_of_views {entries : List β} {visit : β → Except ε γ} {view : γ → β} {holds : γ → Prop}
    (visited : ∀ entry ∈ entries,
      ∃ value, visit entry = .ok value ∧ holds value ∧ view value = entry) :
    ∃ found, entries.mapM visit = .ok found ∧ (∀ value ∈ found, holds value) ∧
      found.map view = entries := by
  rcases mapM_of_forall visited with ⟨found, traversed, matched⟩
  refine ⟨found, traversed, ?_, ?_⟩
  · intro value member
    rcases exists_of_forall₂ matched value member with ⟨_, -, isHeld, -⟩
    exact isHeld
  · have same := matched.imp fun _ _ both => both.2.symm
    rw [← List.forall₂_map_right_iff, List.forall₂_eq_eq_eq] at same
    exact same.symm

/-- Visits one after another succeed if the visit of every entry does. -/
theorem forM_eq_ok_iff {entries : List β} {visit : β → Except ε Unit} :
    entries.forM visit = .ok () ↔ ∀ entry ∈ entries, visit entry = .ok () := by
  induction entries with
  | nil => exact iff_of_true rfl fun entry member => absurd member List.not_mem_nil
  | cons entry others hypothesis =>
    rw [List.forall_mem_cons, ← hypothesis]
    constructor
    · intro visited
      rcases bind_eq_ok.mp visited with ⟨_, first, rest⟩
      exact ⟨first, rest⟩
    · rintro ⟨first, rest⟩
      exact bind_eq_ok.mpr ⟨(), first, rest⟩

/-- If a computation fails, then with an admitted fault. -/
def FailsWith (admitted : ε → Prop) (computed : Except ε β) : Prop :=
  ∀ fault, computed = .error fault → admitted fault

namespace FailsWith

variable {admitted : ε → Prop}

theorem ok (value : β) : FailsWith admitted (.ok value) := by
  intro fault impossible
  cases impossible

theorem error {fault : ε} (isAdmitted : admitted fault) :
    FailsWith admitted (.error fault : Except ε β) := by
  intro other same
  cases same
  exact isAdmitted

/-- The second part may rely on what the first one gave. -/
theorem bind {first : Except ε β} {second : β → Except ε γ} (early : FailsWith admitted first)
    (late : ∀ value, first = .ok value → FailsWith admitted (second value)) :
    FailsWith admitted (first.bind second) := by
  cases first with
  | error fault => exact error (early fault rfl)
  | ok value => exact late value rfl

theorem map {computed : Except ε β} (fails : FailsWith admitted computed) (view : β → γ) :
    FailsWith admitted (computed.map view) := by
  cases computed with
  | error fault => exact error (fails fault rfl)
  | ok value => exact ok _

theorem mapM {entries : List β} {visit : β → Except ε γ}
    (each : ∀ entry ∈ entries, FailsWith admitted (visit entry)) :
    FailsWith admitted (entries.mapM visit) := by
  induction entries with
  | nil => exact ok []
  | cons entry others hypothesis =>
    rw [List.mapM_cons]
    refine (each entry List.mem_cons_self).bind fun value _ => ?_
    refine (hypothesis fun other member => each other (List.mem_cons_of_mem _ member)).bind ?_
    exact fun values _ => ok _

end FailsWith

end Egress
