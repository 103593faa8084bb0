import Mathlib.Algebra.BigOperators.Group.Finset.Basic
import Egress.Polygon
import Egress.Proofs.Comparison
import Egress.Proofs.Doubles.Order
import Egress.Proofs.Factors
import Egress.Proofs.Tariff
import Egress.Proofs.Topology

/-!
# Weights between their bounds

However factors are written and cleared, the effective weight of a connection is a number between
the two bounds of its tariff.  Nothing is asked of the products: one that comes to zero is held up
to the lower bound, and one that is infinite or undefined gives way to the upper bound.  All that
arithmetic has to grant is that finite numbers are ordered.  But the base cost has to be a number:
one that the settings raise beyond the doubles is held by no bound.

Where sums and products are exact, the weight is the base cost times the factors that stand, held
between the bounds.  So it does not matter in which order they were written, which ones they
replaced, and what was cleared in between; and a factor that is raised makes no connection lighter.
-/

namespace Egress

open Scalar

/-- What holding a weight between bounds asks of arithmetic: finite numbers are totally ordered. -/
class LawfulBounds (α : Type) [Scalar α] : Prop where
  le_refl {number : α} : isFinite number = true → number ≤ number
  le_of_not_lt {first second : α} :
    isFinite first = true → isFinite second = true → ¬ second < first → first ≤ second

instance : LawfulBounds Rat where
  le_refl _ := Rat.le_refl
  le_of_not_lt _ _ := Rat.not_lt.mp

instance : LawfulBounds Float where
  le_refl := Doubles.le_refl_of_isFinite
  le_of_not_lt := Doubles.le_of_not_lt_of_isFinite

namespace Tariff

/-- The bounds are finite numbers, the lower one above zero and not above the upper one. -/
structure Brackets {α : Type} [Scalar α] (lowest highest : Value α) (low high : α) : Prop where
  lowest : lowest.number = .ok low
  highest : highest.number = .ok high
  finiteLow : isFinite low = true
  finiteHigh : isFinite high = true
  positive : zero < low
  ordered : low ≤ high

section Calls

variable {α : Type} [Scalar α]

/-- A tariff that began without factors, after some calls. -/
def afterCalls (baseCosts : List (Option α)) (lowest highest : Value α) (calls : List (Call α)) :
    Tariff α :=
  (⟨baseCosts, lowest, highest, ∅⟩ : Tariff α).performAll calls

/-- No call touches the bounds. -/
theorem bounds_perform (tariff : Tariff α) (call : Call α) :
    (tariff.perform call).1.lowest = tariff.lowest ∧
      (tariff.perform call).1.highest = tariff.highest := by
  rcases perform_cases tariff call with ⟨index, sensor, factor, after, -, written, performed⟩ |
    ⟨sensor, rfl⟩ | ⟨_, _, _, _, -, -, performed⟩
  · rw [performed]
    exact (setFactor_frame written).2
  · exact ⟨rfl, rfl⟩
  · rw [performed]
    exact ⟨rfl, rfl⟩

theorem bounds_performAll (tariff : Tariff α) (calls : List (Call α)) :
    (tariff.performAll calls).lowest = tariff.lowest ∧
      (tariff.performAll calls).highest = tariff.highest := by
  induction calls generalizing tariff with
  | nil => exact ⟨rfl, rfl⟩
  | cons call rest hypothesis =>
    have kept := bounds_perform tariff call
    have onward := hypothesis (tariff.perform call).1
    exact ⟨onward.1.trans kept.1, onward.2.trans kept.2⟩

variable {baseCosts : List (Option α)} {lowest highest : Value α} {low high : α}

theorem afterCalls_frame (baseCosts : List (Option α)) (lowest highest : Value α)
    (calls : List (Call α)) :
    (afterCalls baseCosts lowest highest calls).baseCosts = baseCosts ∧
      (afterCalls baseCosts lowest highest calls).lowest = lowest ∧
      (afterCalls baseCosts lowest highest calls).highest = highest :=
  ⟨(records_performAll baseCosts lowest highest calls).1, bounds_performAll _ calls⟩

/-- A weight that is held between bounds lies between them: it is one of the bounds, or it is
finite and passes neither. -/
theorem clamp_between [LawfulBounds α] (brackets : Brackets lowest highest low high) (weight : α) :
    ∃ held value, clamp lowest highest weight = .ok held ∧ held.number = .ok value ∧
      low ≤ value ∧ value ≤ high := by
  rcases clamp_number brackets.lowest brackets.highest weight with
    ⟨held, value, clamped, number, isLow | isHigh | ⟨same, isFinite, above, below⟩⟩
  · subst isLow
    exact ⟨held, value, clamped, number, LawfulBounds.le_refl brackets.finiteLow,
      brackets.ordered⟩
  · subst isHigh
    exact ⟨held, value, clamped, number, brackets.ordered,
      LawfulBounds.le_refl brackets.finiteHigh⟩
  · subst same
    exact ⟨held, value, clamped, number,
      LawfulBounds.le_of_not_lt brackets.finiteLow isFinite below,
      LawfulBounds.le_of_not_lt isFinite brackets.finiteHigh above⟩

theorem effective_between [LawfulBounds α] (brackets : Brackets lowest highest low high)
    (calls : List (Call α)) {index : Nat} {base : α}
    (isBase : baseCosts[index]? = some (some base)) :
    ∃ held weight, (afterCalls baseCosts lowest highest calls).effective index = .ok held ∧
      held.number = .ok weight ∧ low ≤ weight ∧ weight ≤ high := by
  rcases afterCalls_frame baseCosts lowest highest calls with ⟨sameCosts, isLowest, isHighest⟩
  rcases clamp_between brackets
    ((afterCalls baseCosts lowest highest calls).product index base) with
    ⟨held, weight, clamped, number, between⟩
  refine ⟨held, weight, ?_, number, between⟩
  rw [effective_of_base (sameCosts ▸ isBase), isLowest, isHighest]
  exact clamped

/-- A base cost beyond all numbers is a fault whatever the factors are. -/
theorem effective_of_unbounded (calls : List (Call α)) {index : Nat}
    (isBase : baseCosts[index]? = some none) :
    (afterCalls baseCosts lowest highest calls).effective index = .error .tooLarge := by
  have found : (afterCalls baseCosts lowest highest calls).baseCosts[index]? = some none := by
    rw [(afterCalls_frame baseCosts lowest highest calls).1, isBase]
  have inside := (List.getElem?_eq_some_iff.mp found).1
  simp only [effective, indexOf_of_lt inside, bind, Except.bind, found]
  rfl

end Calls

/-! ## Exact weights -/

section Exact

variable {baseCosts : List (Option Rat)} {lowest highest : Value Rat} {low high base : Rat}
  {index : Nat}

/-- An exact weight is made of the factors that its table holds. -/
theorem weight_afterCalls (brackets : Brackets lowest highest low high) (calls : List (Call Rat))
    (isBase : baseCosts[index]? = some (some base)) :
    (afterCalls baseCosts lowest highest calls).weight index = .ok (max low (min high
      (base * ((afterCalls baseCosts lowest highest calls).of index).values.prod))) := by
  rcases afterCalls_frame baseCosts lowest highest calls with ⟨sameCosts, isLowest, isHighest⟩
  have isLow := (congrArg Value.number isLowest).trans brackets.lowest
  have isHigh := (congrArg Value.number isHighest).trans brackets.highest
  exact weight_eq_clamped isLow isHigh brackets.ordered (sameCosts.symm ▸ isBase)

/-- The factors of a connection, as a set. -/
theorem exists_present (calls : List (Call Rat)) (index : Nat) :
    ∃ present : Finset (String × Rat),
      (∀ sensor factor, (sensor, factor) ∈ present ↔
        Stands baseCosts.length calls index sensor factor) ∧
      ((afterCalls baseCosts lowest highest calls).of index).values.prod =
        ∏ entry ∈ present, entry.2 := by
  have records := (records_performAll baseCosts lowest highest calls).2
  let table := (afterCalls baseCosts lowest highest calls).of index
  refine ⟨⟨table.entries, table.entries_nodup⟩, fun sensor factor => ?_, rfl⟩
  rw [← records.found index sensor factor, Table.find?_eq_some_iff]
  rfl

/-- After some calls the factors on a connection are those after others, except that one sensor's
is no higher there. -/
structure Raises (size index : Nat) (calls others : List (Call Rat)) (sensor : String) : Prop where
  raised : ∃ less more, Stands size calls index sensor less ∧
    Stands size others index sensor more ∧ less ≤ more
  same : ∀ name ≠ sensor, ∀ factor,
    Stands size calls index name factor ↔ Stands size others index name factor

/-- A factor that is written over by a higher one is raised. -/
theorem Writes.raises {size : Nat} {calls : List (Call Rat)} {call : Call Rat} {sensor : String}
    {less more : Rat} (writes : Writes size index sensor more call)
    (stands : Stands size calls index sensor less) (ordered : less ≤ more) :
    Raises size index calls (calls ++ [call]) sensor := by
  refine ⟨⟨less, more, stands, stands_append_iff.mpr (Or.inl writes), ordered⟩, ?_⟩
  intro name other factor
  rw [stands_append_iff, writes.supersedes_iff]
  constructor
  · exact fun before => Or.inr ⟨fun both => other both.2, before⟩
  · rintro (another | ⟨-, before⟩)
    · exact absurd (writes.unique another).2.1 other
    · exact before

/-- Where one factor is raised, the tables of factors are ordered name by name. -/
theorem Raises.below {calls others : List (Call Rat)} {sensor : String}
    (raises : Raises baseCosts.length index calls others sensor) :
    ((afterCalls baseCosts lowest highest calls).of index).Below
      ((afterCalls baseCosts lowest highest others).of index) := by
  have records := (records_performAll baseCosts lowest highest calls).2
  have recordsAlso := (records_performAll baseCosts lowest highest others).2
  have positive : ∀ {name factor}, Stands baseCosts.length calls index name factor →
      0 < factor := by
    rintro name factor ⟨-, call, -, -, isFactor, -⟩
    exact of_decide_eq_true isFactor
  intro name
  by_cases here : name = sensor
  · subst here
    rcases raises.raised with ⟨less, more, stands, also, ordered⟩
    exact Or.inr ⟨less, more, (records.found index name less).mpr stands,
      (recordsAlso.found index name more).mpr also, positive stands, ordered⟩
  · have level : ((afterCalls baseCosts lowest highest calls).of index).find? name =
        ((afterCalls baseCosts lowest highest others).of index).find? name := by
      refine Option.ext fun factor => ?_
      rw [afterCalls, records.found, afterCalls, recordsAlso.found]
      exact raises.same name here factor
    cases found : ((afterCalls baseCosts lowest highest calls).of index).find? name with
    | none => exact Or.inl ⟨rfl, level ▸ found⟩
    | some factor =>
      have stands := (records.found index name factor).mp found
      exact Or.inr ⟨factor, factor, rfl, level ▸ found, positive stands, le_rfl⟩

end Exact

/-- Whatever the calls and whatever the products come to, effective weights lie between the bounds.
Where products are exact, a weight is the base cost times the factors that stand, held between the
bounds: it depends on these factors only, and raising one of them does not lower it. -/
theorem weight_held :
    (∀ (α : Type) [Scalar α] [LawfulBounds α] (baseCosts : List (Option α))
      (lowest highest : Value α) (low high : α), Brackets lowest highest low high →
      ∀ (calls : List (Call α)) (index : Nat) base, baseCosts[index]? = some (some base) →
        ∃ held weight, (afterCalls baseCosts lowest highest calls).effective index = .ok held ∧
          held.number = .ok weight ∧ low ≤ weight ∧ weight ≤ high) ∧
    ∀ (baseCosts : List (Option Rat)) (lowest highest : Value Rat) (low high : Rat),
      Brackets lowest highest low high →
      ∀ (index : Nat) base, baseCosts[index]? = some (some base) → ∀ calls : List (Call Rat),
        (∃ present : Finset (String × Rat),
          (∀ sensor factor, (sensor, factor) ∈ present ↔
            Stands baseCosts.length calls index sensor factor) ∧
          (afterCalls baseCosts lowest highest calls).weight index =
            .ok (max low (min high (base * ∏ entry ∈ present, entry.2)))) ∧
        ∀ others : List (Call Rat),
          ((∀ sensor factor, Stands baseCosts.length calls index sensor factor ↔
              Stands baseCosts.length others index sensor factor) →
            (afterCalls baseCosts lowest highest calls).weight index =
              (afterCalls baseCosts lowest highest others).weight index) ∧
          ∀ sensor, Raises baseCosts.length index calls others sensor →
            ∃ less more, (afterCalls baseCosts lowest highest calls).weight index = .ok less ∧
              (afterCalls baseCosts lowest highest others).weight index = .ok more ∧
              less ≤ more := by
  constructor
  · intro α _ _ baseCosts lowest highest low high brackets calls index base isBase
    exact effective_between brackets calls isBase
  · intro baseCosts lowest highest low high brackets index base isBase calls
    have weighed := weight_afterCalls brackets calls isBase
    rcases exists_present calls index with ⟨present, isPresent, product⟩
    refine ⟨⟨present, isPresent, product ▸ weighed⟩, fun others => ⟨fun agree => ?_, ?_⟩⟩
    · rcases exists_present others index with ⟨also, isAlso, productAlso⟩
      have same : present = also := by
        ext ⟨sensor, factor⟩
        rw [isPresent, isAlso, agree]
      rw [weighed, weight_afterCalls brackets others isBase, product, productAlso, same]
    · intro sensor raises
      exact ⟨_, _, weighed, weight_afterCalls brackets others isBase,
        clamped_le_clamped raises.below brackets.positive base⟩

/-- Factors whose product is no double are written on the first of two connections and on the
second, and their weights are held; a factor that is written over and raised adds to the weight. -/
theorem weight_held_by_calls :
    (∃ held weight, (afterCalls [some 1, some (Scalar.decimal 1 false 308)]
        (.real (Scalar.decimal 1 true 6)) (.real (Scalar.decimal 1 false 12))
        [.set 1 "smoke" (Scalar.decimal 1 false 308), .set 0 "smoke" 2, .clear "smoke",
          .set 1 "doors" (Scalar.decimal 1 false 308)]).effective (1 : Nat) = .ok held ∧
      held.number = .ok weight ∧ (Scalar.decimal 1 true 6 : Float) ≤ weight ∧
      weight ≤ Scalar.decimal 1 false 12) ∧
    ∃ less more,
      (afterCalls [some (1 : Rat)] (.int 1) (.int 8) [.set 0 "smoke" 2]).weight (0 : Nat) =
        .ok less ∧
      (afterCalls [some (1 : Rat)] (.int 1) (.int 8)
        [.set 0 "smoke" 2, .set 0 "smoke" 3]).weight (0 : Nat) = .ok more ∧ less ≤ more := by
  have doubles : Brackets (.real (Scalar.decimal 1 true 6)) (.real (Scalar.decimal 1 false 12))
      (Scalar.decimal 1 true 6 : Float) (Scalar.decimal 1 false 12) :=
    ⟨rfl, rfl, by decide +kernel, by decide +kernel, by decide +kernel, by decide +kernel⟩
  have exact_ : Brackets (.int 1) (.int 8) (1 : Rat) 8 :=
    ⟨rfl, rfl, rfl, rfl, by decide +kernel, by decide +kernel⟩
  have written : Stands 1 ([] ++ [Call.set 0 "smoke" (2 : Rat)]) 0 "smoke" 2 :=
    stands_append_iff.mpr (Or.inl ⟨rfl, by decide +kernel, Nat.one_pos⟩)
  have rewritten : Writes 1 0 "smoke" 3 (Call.set 0 "smoke" (3 : Rat)) :=
    ⟨rfl, by decide +kernel, Nat.one_pos⟩
  constructor
  · exact weight_held.1 Float _ _ _ _ _ doubles _ 1 _ rfl
  · exact ((weight_held.2 _ _ _ _ _ exact_ 0 _ rfl _).2 _).2 "smoke"
      (rewritten.raises written (by decide +kernel))

/-- The cheapest connection is to cost more than any double. -/
def unaffordable : Value Float := .mapping [(.text "min_base_cost", .int (10 ^ 400))]

/-- Two rooms side by side. -/
def besideCalls : List (Building.Call Float) := [
  .room "A" [⟨0, 0⟩, ⟨2, 0⟩, ⟨2, 2⟩, ⟨0, 2⟩] "lobby" 0,
  .room "B" [⟨2, 0⟩, ⟨4, 0⟩, ⟨4, 2⟩, ⟨2, 2⟩] "floor" 0]

/-- The settings with that cost floor. -/
def steep : Settings Float := (Settings.ofOverrides unaffordable).toOption.getD .defaults

/-- Whether a network has two connections, both with base costs that are no numbers. -/
def isSteep (network : Network Float) : Bool :=
  network.connections.length == 2 &&
    network.connections.all fun connection => connection.baseCost.isNone

/-- Being accepted does not keep base costs among the doubles.  Where the cost floor is an integer
beyond them, no weight lies between the bounds: whatever is written, each of them is a fault. -/
theorem weight_not_held :
    ∃ settings network, Settings.ofOverrides unaffordable = .ok settings ∧
      ((Building.empty : Building Float Polygon).performAll besideCalls).network settings =
        .ok network ∧
      Brackets (settings.value .weightFloor) (settings.value .weightCeiling)
        (Scalar.decimal 1 true 6 : Float) (Scalar.decimal 1 false 12) ∧
      network.connections.length = 2 ∧
      ∀ (calls : List (Call Float)) (index : Nat), index < 2 →
        ((ofNetwork network settings).performAll calls).effective index = .error .tooLarge := by
  have bounds : Brackets (steep.value .weightFloor) (steep.value .weightCeiling)
      (Scalar.decimal 1 true 6 : Float) (Scalar.decimal 1 false 12) :=
    ⟨rfl, rfl, by decide +kernel, by decide +kernel, by decide +kernel, by decide +kernel⟩
  -- The survey is computed once, for all that is said of the network.
  have computed : (((Building.empty : Building Float Polygon).performAll besideCalls).network
      steep).toOption.any isSteep = true := by decide +kernel
  cases surveyed : ((Building.empty : Building Float Polygon).performAll besideCalls).network
      steep with
  | error fault =>
    rw [surveyed] at computed
    cases computed
  | ok network =>
    rw [surveyed] at computed
    rcases Bool.and_eq_true_iff.mp computed with ⟨counted, unbounded⟩
    refine ⟨steep, network, Settings.ofOverrides_of_isOk (by decide +kernel), surveyed, bounds,
      beq_iff_eq.mp counted, fun calls index less => ?_⟩
    have inside : index < network.connections.length := (beq_iff_eq.mp counted) ▸ less
    have isNone := List.all_eq_true.mp unbounded _ (List.getElem_mem inside)
    refine effective_of_unbounded calls ?_
    rw [List.getElem?_map, List.getElem?_eq_getElem inside, Option.map_some,
      Option.isNone_iff_eq_none.mp isNone]

end Tariff

end Egress
