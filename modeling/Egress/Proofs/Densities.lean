import Mathlib.Algebra.Order.Ring.Rat
import Egress.Proofs.Outbreak

/-!
# Densities of smoke

Densities lie between zero and one.  Smoke starts at such a density, each cycle adds the growth to
it, and a sum that comes out above one is cut down to one.  So densities stay in their bounds as
long as the growth is not below zero, whatever the calls are and whether they fail.

This asks little of the arithmetic, and the laws below say what.  They leave room for rounding and
for undefined numbers: a sum that is undefined is not below one, so one takes its place.  The laws
that end in a factor are those by which a density becomes a cost.
-/

namespace Egress

open Scalar

/-- Neither below zero nor above one. -/
def Moderate {α : Type} [Scalar α] (density : α) : Prop := zero ≤ density ∧ density ≤ one

/-- What densities and the factors made of them ask of arithmetic. -/
class LawfulDensities (α : Type) [Scalar α] : Prop where
  isFactor_one : isFactor (one : α) = true
  moderate_zero : Moderate (zero : α)
  moderate_one : Moderate (one : α)
  le_of_lt {density : α} : density < one → density ≤ one
  nonneg_of_lt {density other : α} : zero ≤ density → density < other → zero ≤ other
  /-- Growth that is not below zero does not make smoke thinner than air. -/
  nonneg_add {density growth : α} :
    Moderate density → ¬ growth < zero → density + growth < one → zero ≤ density + growth
  isFactor_smoke {scale density : α} :
    isFinite scale = true → zero ≤ scale → Moderate density →
      isFactor (one + scale * density) = true
  factor_clear {scale : α} : isFinite scale = true → zero ≤ scale → one + scale * zero = one

instance : LawfulDensities Rat where
  isFactor_one := by decide +kernel
  moderate_zero := by constructor <;> decide +kernel
  moderate_one := by constructor <;> decide +kernel
  le_of_lt := Rat.le_of_lt
  nonneg_of_lt nonneg less := Rat.le_of_lt (lt_of_le_of_lt nonneg less)
  nonneg_add moderate grows _ := add_nonneg moderate.1 (not_lt.mp grows)
  isFactor_smoke := by
    intro scale density _ nonneg moderate
    have above : (0 : Rat) < 1 + scale * density :=
      add_pos_of_pos_of_nonneg one_pos (mul_nonneg nonneg moderate.1)
    exact decide_eq_true above
  factor_clear := by
    intro scale _ _
    exact (congrArg (1 + ·) (mul_zero scale)).trans (add_zero 1)

theorem larger_eq_max (first second : Rat) : larger first second = max first second := by
  unfold larger
  split
  · rename_i less
    exact (max_eq_right (le_of_lt less)).symm
  · rename_i notLess
    exact (max_eq_left (not_lt.mp notLess)).symm

theorem smaller_eq_min (first second : Rat) : smaller first second = min first second := by
  unfold smaller
  split
  · rename_i less
    exact (min_eq_right (le_of_lt less)).symm
  · rename_i notLess
    exact (min_eq_left (not_lt.mp notLess)).symm

open LawfulDensities

variable {α : Type} [Scalar α] {density other : α}

/-- Of two densities the denser. -/
theorem moderate_larger (moderate : Moderate density) (also : Moderate other) :
    Moderate (larger density other) := by
  unfold larger
  split
  · exact also
  · exact moderate

variable [LawfulDensities α]

/-- What is held below one is a density, if it is not below zero there. -/
theorem moderate_smaller (nonneg : density < one → zero ≤ density) :
    Moderate (smaller one density) := by
  unfold smaller
  split
  · rename_i below
    exact ⟨nonneg below, le_of_lt below⟩
  · exact moderate_one

namespace Conditions

variable {conditions after : Conditions α} {reference : Int}

omit [Scalar α] [LawfulDensities α] in
theorem smoke_of_block (done : conditions.block reference = .ok after) :
    after.smoke = conditions.smoke := by
  rcases bind_eq_ok.mp done with ⟨index, -, rest⟩
  split at rest
  · cases rest
    rfl
  · cases rest
    rfl

omit [Scalar α] [LawfulDensities α] in
theorem smoke_of_unblock (done : conditions.unblock reference = .ok after) :
    after.smoke = conditions.smoke := by
  rcases bind_eq_ok.mp done with ⟨index, -, same⟩
  cases same
  rfl

/-- Every density lies in its bounds. -/
def Bounded (conditions : Conditions α) : Prop :=
  ∀ region density, conditions.smoke.find? region = some density → Moderate density

/-- The density in a region, with or without smoke. -/
theorem Bounded.moderate_present (bounded : conditions.Bounded) (region : Int) :
    Moderate ((conditions.smoke.find? region).getD zero) := by
  cases found : conditions.smoke.find? region with
  | none => exact moderate_zero
  | some density => exact bounded region density found

end Conditions

namespace Update

variable {σ β δ : Type} {holds : σ → Prop}

omit [Scalar α] [LawfulDensities α] in
/-- What a call returns has a property, if it returns at all, and the call keeps another. -/
def Yields (holds : σ → Prop) (returned : β → Prop) (call : Update σ α β) : Prop :=
  ∀ state, holds state →
    holds (call.run state).2 ∧ ∀ value, (call.run state).1 = .ok value → returned value

omit [Scalar α] [LawfulDensities α] in
/-- What follows may rely on what was returned. -/
theorem keeps_bind_of_yields {returned : β → Prop} {first : Update σ α β}
    {next : β → Update σ α δ} (yields : Yields holds returned first)
    (onward : ∀ value, returned value → Keeps holds (next value)) :
    Keeps holds (first >>= next) := by
  intro state before
  rcases yields state before with ⟨between, isReturned⟩
  change holds (ExceptT.bindCont next (first.run state).1 (first.run state).2).2
  cases made : (first.run state).1 with
  | ok value => exact onward value (isReturned value made) _ between
  | error fault => exact between

end Update

namespace Outbreak

open Update

variable {γ : Type}

/-! ## Calls -/

/-- A call on an outbreak. -/
inductive Call (α γ : Type) where
  | ignite (reference : Int) (density : Option (Value α))
  | spread
  | block (reference : Int)
  | unblock (reference : Int)
  | reset
  | reseed (source : γ)

omit [Scalar α] [LawfulDensities α] in
/-- Take over what a call makes of an outbreak, unless it fails. -/
def attempt (outbreak : Outbreak α γ) :
    Except (Fault α) (Outbreak α γ) → Outbreak α γ × Except (Fault α) (Option Nat)
  | .ok after => (after, .ok none)
  | .error fault => (outbreak, .error fault)

omit [Scalar α] [LawfulDensities α] in
/-- What holds before an attempt and after it where it succeeds, holds after it in any case. -/
theorem attempt_keeps (holds : Outbreak α γ → Prop) {outbreak : Outbreak α γ}
    {made : Except (Fault α) (Outbreak α γ)} (before : holds outbreak)
    (kept : ∀ {after}, made = .ok after → holds after) : holds (outbreak.attempt made).1 := by
  cases made with
  | ok after => exact kept rfl
  | error fault => exact before

variable [RandomSource γ α]

omit [LawfulDensities α] in
/-- Make a call.  Spreading returns the count of calls since the last cycle. -/
def perform (outbreak : Outbreak α γ) :
    Call α γ → Outbreak α γ × Except (Fault α) (Option Nat)
  | .ignite reference density => outbreak.attempt (outbreak.ignite reference density)
  | .spread =>
    let (result, after) := spread.run outbreak
    (after, result.map some)
  | .block reference =>
    outbreak.attempt (outbreak.onConditions fun conditions => conditions.block reference)
  | .unblock reference =>
    outbreak.attempt (outbreak.onConditions fun conditions => conditions.unblock reference)
  | .reset => (outbreak.reset, .ok none)
  | .reseed source => (outbreak.reseed source, .ok none)

/-- Make calls one after another, whether they fail or not. -/
def performAll (outbreak : Outbreak α γ) (calls : List (Call α γ)) : Outbreak α γ :=
  calls.foldl (fun outbreak call => (outbreak.perform call).1) outbreak

omit [LawfulDensities α] in
/-- What every call keeps, any calls keep. -/
theorem performAll_keeps (holds : Outbreak α γ → Prop)
    (kept : ∀ outbreak call, holds outbreak → holds (outbreak.perform call).1)
    {outbreak : Outbreak α γ} (before : holds outbreak) (calls : List (Call α γ)) :
    holds (outbreak.performAll calls) := by
  induction calls generalizing outbreak with
  | nil => exact before
  | cons call rest hypothesis => exact hypothesis (kept outbreak call before)

/-! ## Bounds of densities -/

/-- Every density lies in its bounds, under settings in which smoke does not shrink. -/
structure Tempered (settings : Settings α) (outbreak : Outbreak α γ) : Prop where
  given : outbreak.settings = settings
  grows : ∀ growth, settings.number .growth = .ok growth → ¬ growth < zero
  bounded : outbreak.conditions.Bounded

namespace Tempered

variable {settings : Settings α} {outbreak after : Outbreak α γ}

omit [LawfulDensities α] [RandomSource γ α] in
/-- Filling a region with a density. -/
theorem fill (tempered : Tempered settings outbreak) (region : Int) (moderate : Moderate density) :
    Tempered settings
      { outbreak with conditions := outbreak.conditions.fill region density } := by
  refine ⟨tempered.given, tempered.grows, fun other present found => ?_⟩
  rw [Conditions.fill, Table.find?_insert] at found
  split at found
  · cases found
    exact moderate
  · exact tempered.bounded other present found

omit [RandomSource γ α] in
theorem ignite (tempered : Tempered settings outbreak) {reference : Int}
    {density : Option (Value α)} (done : outbreak.ignite reference density = .ok after) :
    Tempered settings after := by
  rcases bind_eq_ok.mp done with ⟨region, -, rest⟩
  dsimp only at rest
  split at rest
  · split at rest
    · rename_i level _ moderate
      cases rest
      exact tempered.fill region
        (moderate_larger (tempered.bounded.moderate_present region) moderate)
    · cases rest
  · cases rest

omit [LawfulDensities α] [RandomSource γ α] in
theorem onConditions (tempered : Tempered settings outbreak)
    {change : Conditions α → Except (Fault α) (Conditions α)}
    (kept : ∀ {before after}, change before = .ok after → after.smoke = before.smoke)
    (done : outbreak.onConditions change = .ok after) : Tempered settings after := by
  rcases bind_eq_ok.mp done with ⟨conditions, changed, same⟩
  cases same
  refine ⟨tempered.given, tempered.grows, fun region density found => ?_⟩
  rw [kept changed] at found
  exact tempered.bounded region density found

omit [LawfulDensities α] [RandomSource γ α] in
theorem reset (tempered : Tempered settings outbreak) : Tempered settings outbreak.reset :=
  ⟨tempered.given, tempered.grows, nofun⟩

omit [LawfulDensities α] [RandomSource γ α] in
theorem yields_growth : Yields (Tempered settings)
    (fun value => settings.number .growth = .ok value)
    (growth : Update (Outbreak α γ) α α) := by
  intro outbreak tempered
  rw [run_growth, tempered.given]
  exact ⟨tempered, fun _ isGrowth => isGrowth⟩

omit [RandomSource γ α] in
theorem keeps_grow (region : Int) :
    Keeps (Tempered settings) (grow region : Update (Outbreak α γ) α Unit) := by
  refine keeps_get fun outbreak tempered => ?_
  refine keeps_bind_of_yields yields_growth fun growth isGrowth => ?_
  refine keeps_set (tempered.fill region (moderate_smaller ?_))
  exact nonneg_add (tempered.bounded.moderate_present region) (tempered.grows growth isGrowth)

omit [RandomSource γ α] in
theorem keeps_arrive (region : Int) :
    Keeps (Tempered settings) (arrive region : Update (Outbreak α γ) α Unit) := by
  refine keeps_get fun outbreak tempered => ?_
  refine keeps_bind (keeps_bound _) fun fresh => ?_
  refine keeps_set (tempered.fill region (moderate_smaller fun _ => ?_))
  have present := tempered.bounded.moderate_present region
  unfold larger
  split
  · rename_i denser
    exact nonneg_of_lt present.1 denser
  · exact present.1

theorem keeps_spread : Keeps (Tempered settings) (spread : Update (Outbreak α γ) α Nat) :=
  keeps_spread_of
    ⟨fun _ _ tempered => ⟨tempered.given, tempered.grows, tempered.bounded⟩,
      fun _ _ tempered => ⟨tempered.given, tempered.grows, tempered.bounded⟩⟩
    keeps_grow keeps_arrive

/-- No call drives a density out of its bounds. -/
theorem perform (tempered : Tempered settings outbreak) (call : Call α γ) :
    Tempered settings (outbreak.perform call).1 := by
  cases call with
  | ignite reference density => exact attempt_keeps _ tempered tempered.ignite
  | spread => exact keeps_spread outbreak tempered
  | block reference =>
    exact attempt_keeps _ tempered (tempered.onConditions Conditions.smoke_of_block)
  | unblock reference =>
    exact attempt_keeps _ tempered (tempered.onConditions Conditions.smoke_of_unblock)
  | reset => exact tempered.reset
  | reseed source => exact ⟨tempered.given, tempered.grows, tempered.bounded⟩

end Tempered

/-- Whatever the calls, densities stay in their bounds if smoke does not shrink. -/
theorem tempered_performAll {settings : Settings α} (network : Network α) (source : γ)
    (grows : ∀ growth, settings.number .growth = .ok growth → ¬ growth < zero)
    (calls : List (Call α γ)) :
    Tempered settings ((ofNetwork network settings source).performAll calls) :=
  performAll_keeps (Tempered settings) (fun _ call tempered => tempered.perform call)
    ⟨rfl, grows, fun _ _ found => by cases found⟩ calls

end Outbreak

end Egress
