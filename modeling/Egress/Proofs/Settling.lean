import Mathlib.Data.Finset.Card
import Mathlib.Order.Filter.AtTopBot.Basic
import Egress.Proofs.Table

/-!
# Tables that settle

Entries are written into a table again and again, for finitely many keys, and always the same value
for one key.  Writing a value where it stands already changes nothing, and every other write leaves
one key less without its value.  So the table changes only a bounded number of times.
-/

namespace Egress.Table

open Filter

variable {κ β : Type} [DecidableEq κ]

/-- Tables that come from one another by writing entries that are due. -/
inductive Written (due : κ → β → Prop) (before : Table κ β) : Table κ β → Prop
  | none : Written due before before
  | write {after : Table κ β} {key : κ} {value : β} : Written due before after → due key value →
      Written due before (after.insert key value)

theorem Written.mono {due other : κ → β → Prop} {before after : Table κ β}
    (written : Written due before after) (implied : ∀ key value, due key value → other key value) :
    Written other before after := by
  induction written with
  | none => exact .none
  | write _ isDue hypothesis => exact hypothesis.write (implied _ _ isDue)

theorem Written.trans {due : κ → β → Prop} {first second third : Table κ β}
    (earlier : Written due first second) (later : Written due second third) :
    Written due first third := by
  induction later with
  | none => exact earlier
  | write _ isDue hypothesis => exact hypothesis.write isDue

open Classical in
/-- How many of some keys do not have the value that is due. -/
noncomputable def lacking (keys : Finset κ) (due : κ → β → Prop) (table : Table κ β) : Nat :=
  (keys.filter fun key => ∀ value, due key value → table.find? key ≠ some value).card

variable {keys : Finset κ} {due : κ → β → Prop}

/-- A write changes nothing or leaves one key less without its value. -/
theorem insert_lacking (covered : ∀ key value, due key value → key ∈ keys)
    (only : ∀ key first second, due key first → due key second → first = second)
    (table : Table κ β) {key : κ} {value : β} (isDue : due key value) :
    table.insert key value = table ∨
      lacking keys due (table.insert key value) < lacking keys due table := by
  classical
  by_cases present : table.find? key = some value
  · exact Or.inl (insert_of_find? present)
  · refine Or.inr (Finset.card_lt_card ((Finset.ssubset_iff_of_subset ?_).mpr ⟨key, ?_, ?_⟩))
    · intro other member
      rcases Finset.mem_filter.mp member with ⟨inside, lacks⟩
      refine Finset.mem_filter.mpr ⟨inside, ?_⟩
      intro wanted isWanted found
      apply lacks wanted isWanted
      rw [find?_insert]
      split
      · rename_i same
        subst same
        exact congrArg some (only key value wanted isDue isWanted)
      · exact found
    · refine Finset.mem_filter.mpr ⟨covered key value isDue, ?_⟩
      intro wanted isWanted found
      exact present (found.trans (congrArg some (only key wanted value isWanted isDue)))
    · intro member
      exact (Finset.mem_filter.mp member).2 value isDue (by rw [find?_insert, if_pos rfl])

theorem Written.lacking (covered : ∀ key value, due key value → key ∈ keys)
    (only : ∀ key first second, due key first → due key second → first = second)
    {before after : Table κ β} (written : Written due before after) :
    after = before ∨ lacking keys due after < lacking keys due before := by
  induction written with
  | none => exact Or.inl rfl
  | @write after key value _ isDue hypothesis =>
    rcases insert_lacking covered only after isDue with same | fewer
    · rw [same]
      exact hypothesis
    · apply Or.inr
      rcases hypothesis with level | less
      · rw [← level]
        exact fewer
      · exact Nat.lt_trans fewer less

/-- A table that is written for ever settles. -/
theorem eventually_settles (keys : Finset κ) (due : κ → β → Prop)
    (covered : ∀ key value, due key value → key ∈ keys)
    (only : ∀ key first second, due key first → due key second → first = second)
    {table : Nat → Table κ β}
    (written : ∀ᶠ time in atTop, Written due (table time) (table (time + 1))) :
    ∃ final, ∀ᶠ time in atTop, table time = final := by
  rcases eventually_atTop.mp written with ⟨start, always⟩
  have onward : ∀ time later, start ≤ time → time ≤ later → table later = table time ∨
      Table.lacking keys due (table later) < Table.lacking keys due (table time) := by
    intro time later reached ordered
    induction later, ordered using Nat.le_induction with
    | base => exact Or.inl rfl
    | succ later ordered hypothesis =>
      have next := (always later (Nat.le_trans reached ordered)).lacking covered only
      rcases hypothesis with same | fewer
      · rwa [← same]
      · rcases next with same | fewest
        · rw [same]
          exact Or.inr fewer
        · exact Or.inr (Nat.lt_trans fewest fewer)
  have settles : ∀ count time, start ≤ time → Table.lacking keys due (table time) = count →
      ∃ final, ∀ᶠ time in atTop, table time = final := by
    intro count
    induction count using Nat.strong_induction_on with
    | _ count hypothesis =>
      intro time reached isCount
      by_cases rests : ∀ later, time ≤ later → table later = table time
      · exact ⟨table time, eventually_atTop.mpr ⟨time, rests⟩⟩
      · rcases not_forall.mp rests with ⟨later, changes⟩
        rcases Classical.not_imp.mp changes with ⟨ordered, different⟩
        have fewer := (onward time later reached ordered).resolve_left different
        exact hypothesis _ (isCount ▸ fewer) later (Nat.le_trans reached ordered) rfl
  exact settles _ start (Nat.le_refl start) rfl

end Egress.Table
