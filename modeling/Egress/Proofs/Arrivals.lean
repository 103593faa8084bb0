import Egress.Proofs.Burning
import Egress.Proofs.Trials

/-!
# What a cycle makes of a region

A cycle changes densities where they stand, region by region in ascending order.  So smoke that
crosses from a lower-numbered region arrives before the smoke of a region grows, and grows with it;
from a higher-numbered region it arrives after that.  What becomes of a region is settled by its
density before the cycle, by whether smoke crossed into it, and by whether some of that smoke came
from a region with a lower number.

If growth came first everywhere and smoke arrived after it, the numbering of the regions would not
matter.  The two agree on a region unless fresh smoke that arrives early is denser than what the
region held, and there is room for it to grow.
-/

namespace Egress

open Scalar

variable {α : Type}

/-! ## Arrivals -/

/-- Smoke crossed into a region from one of a kind. -/
def crossedFrom (crossings : List (Connection α)) (kind : Int → Bool) (region : Int) : Bool :=
  crossings.any fun connection =>
    kind connection.source && decide (connection.destination = some region)

theorem crossedFrom_iff {crossings : List (Connection α)} {kind : Int → Bool} {region : Int} :
    crossedFrom crossings kind region = true ↔ ∃ connection ∈ crossings,
      kind connection.source = true ∧ connection.destination = some region := by
  unfold crossedFrom
  rw [List.any_eq_true]
  refine exists_congr fun connection => and_congr_right fun _ => ?_
  rw [Bool.and_eq_true, decide_eq_true_iff]

theorem crossedFrom_congr {crossings : List (Connection α)} {kind other : Int → Bool}
    (agree : ∀ connection ∈ crossings, kind connection.source = other connection.source)
    (region : Int) : crossedFrom crossings kind region = crossedFrom crossings other region := by
  rw [Bool.eq_iff_iff, crossedFrom_iff, crossedFrom_iff]
  refine exists_congr fun connection => and_congr_right fun member => ?_
  rw [agree connection member]

theorem crossedFrom_or (crossings : List (Connection α)) (kind other : Int → Bool) (region : Int) :
    crossedFrom crossings (fun source => kind source || other source) region =
      (crossedFrom crossings kind region || crossedFrom crossings other region) := by
  rw [Bool.eq_iff_iff]
  simp only [crossedFrom_iff, Bool.or_eq_true, or_and_right, and_or_left, exists_or]

/-- Smoke crossed into a region. -/
def isReached (crossings : List (Connection α)) (region : Int) : Bool :=
  crossedFrom crossings (fun _ => true) region

/-- Smoke crossed into a region from one with a lower number. -/
def isEarly (crossings : List (Connection α)) (region : Int) : Bool :=
  crossedFrom crossings (fun source => decide (source < region)) region

namespace Pace

variable {pace : Pace Rat} {smoke : Table Int Rat} {crossings : List (Connection Rat)}
  {region : Int}

/-- What a region holds once smoke has arrived, or not. -/
def joined (pace : Pace Rat) (arrives : Bool) (density : Option Rat) : Option Rat :=
  if arrives then some (max (density.getD 0) pace.fresh) else density

/-- What a cycle makes of a region: smoke that arrives early grows with the smoke there. -/
def outcome (pace : Pace Rat) (crossings : List (Connection Rat)) (region : Int) :
    Option Rat → Option Rat
  | none => if isReached crossings region then some pace.fresh else none
  | some density =>
    some (if isEarly crossings region then min 1 (max density pace.fresh + pace.growth)
      else if isReached crossings region then max (min 1 (density + pace.growth)) pace.fresh
      else min 1 (density + pace.growth))

/-- What would become of a region if smoke grew everywhere before any arrived. -/
def snapshot (pace : Pace Rat) (crossings : List (Connection Rat)) (region : Int) :
    Option Rat → Option Rat
  | none => if isReached crossings region then some pace.fresh else none
  | some density =>
    some (if isReached crossings region then max (min 1 (density + pace.growth)) pace.fresh
      else min 1 (density + pace.growth))

theorem joined_joined (pace : Pace Rat) (first second : Bool) (density : Option Rat) :
    pace.joined second (pace.joined first density) = pace.joined (first || second) density := by
  cases first with
  | false => rfl
  | true =>
    cases second with
    | false => rfl
    | true => exact congrArg some ((max_assoc _ _ _).trans (congrArg _ (max_self pace.fresh)))

/-- Densities do not exceed one. -/
def Capped (smoke : Table Int Rat) : Prop :=
  ∀ region density, smoke.find? region = some density → density ≤ 1

theorem Capped.getD_le (capped : Capped smoke) (region : Int) :
    (smoke.find? region).getD 0 ≤ 1 := by
  cases found : smoke.find? region with
  | none => exact zero_le_one
  | some density => exact capped region density found

theorem Capped.insert (capped : Capped smoke) {density : Rat} (below : density ≤ 1) :
    Capped (smoke.insert region density) := by
  intro other present found
  rw [Table.find?_insert] at found
  split at found
  · cases found
    exact below
  · exact capped other present found

theorem capped_settle (capped : Capped smoke) (region : Int) :
    Capped (pace.settle smoke region) := by
  refine capped.insert ?_
  rw [smaller_eq_min]
  exact min_le_left _ _

theorem capped_rise (capped : Capped smoke) (region : Int) :
    Capped (pace.rise smoke region) := by
  refine capped.insert ?_
  rw [smaller_eq_min]
  exact min_le_left _ _

theorem find?_settle (below : pace.fresh ≤ 1) (capped : Capped smoke) (destination : Int) :
    (pace.settle smoke destination).find? region =
      pace.joined (region == destination) (smoke.find? region) := by
  have within : max ((smoke.find? destination).getD 0) pace.fresh ≤ 1 :=
    max_le (capped.getD_le destination) below
  unfold settle joined
  rw [Table.find?_insert, smaller_eq_min, larger_eq_max]
  by_cases here : destination = region
  · subst here
    rw [if_pos rfl, beq_self_eq_true, if_pos rfl]
    exact congrArg some (min_eq_right within)
  · rw [if_neg here, beq_false_of_ne (Ne.symm here), if_neg Bool.false_ne_true]

/-- Smoke settles in one region after another. -/
theorem find?_foldl_settle (below : pace.fresh ≤ 1) (destinations : List Int)
    (capped : Capped smoke) (region : Int) :
    Capped (destinations.foldl pace.settle smoke) ∧
      (destinations.foldl pace.settle smoke).find? region =
        pace.joined (destinations.contains region) (smoke.find? region) := by
  induction destinations generalizing smoke with
  | nil => exact ⟨capped, rfl⟩
  | cons destination rest hypothesis =>
    rcases hypothesis (capped_settle capped destination) with ⟨isCapped, found⟩
    refine ⟨isCapped, ?_⟩
    rw [List.foldl_cons, found, find?_settle below capped, joined_joined, List.contains_cons]

/-- What one turn makes of a region: its smoke grows if the turn is its own, and then smoke may
arrive from the region whose turn it is. -/
theorem find?_turn (below : pace.fresh ≤ 1) (crossings : List (Connection Rat))
    (capped : Capped smoke) (turning region : Int) :
    Capped (pace.turn crossings smoke turning) ∧
      (pace.turn crossings smoke turning).find? region =
        pace.joined (crossedFrom crossings (fun source => decide (source = turning)) region)
          (if turning = region then
            some (min 1 ((smoke.find? region).getD 0 + pace.growth)) else smoke.find? region) := by
  rcases find?_foldl_settle below
    ((crossings.filter fun connection => decide ((connection.source : Int) = turning)).filterMap
      fun connection => connection.destination) (capped_rise capped turning) region with
    ⟨isCapped, found⟩
  refine ⟨isCapped, found.trans ?_⟩
  have same : ((crossings.filter fun connection =>
      decide ((connection.source : Int) = turning)).filterMap
        fun connection => connection.destination).contains region =
      crossedFrom crossings (fun source => decide (source = turning)) region := by
    rw [Bool.eq_iff_iff, List.contains_iff_mem, List.mem_filterMap, crossedFrom_iff]
    refine exists_congr fun connection => ?_
    rw [List.mem_filter, and_assoc]
  rw [same, rise, Table.find?_insert, smaller_eq_min]
  congr 1
  split
  · rename_i here
    rw [here]
    rfl
  · rfl

/-- Regions take their turns, but one does not: smoke may arrive there from each of them. -/
theorem find?_foldl_turn (below : pace.fresh ≤ 1) (crossings : List (Connection Rat))
    {regions : List Int} (apart : region ∉ regions) (capped : Capped smoke) :
    Capped (regions.foldl (pace.turn crossings) smoke) ∧
      (regions.foldl (pace.turn crossings) smoke).find? region =
        pace.joined (crossedFrom crossings regions.contains region) (smoke.find? region) := by
  induction regions generalizing smoke with
  | nil =>
    have none : crossedFrom crossings [].contains region = false :=
      Bool.eq_false_iff.mpr fun crossed => by
        rcases crossedFrom_iff.mp crossed with ⟨_, -, impossible, -⟩
        cases impossible
    rw [none]
    exact ⟨capped, rfl⟩
  | cons turning rest hypothesis =>
    rcases not_or.mp (mt List.mem_cons.mpr apart) with ⟨other, apartRest⟩
    rcases find?_turn below crossings capped turning region with
      ⟨cappedFirst, first⟩
    rcases hypothesis apartRest cappedFirst with ⟨isCapped, found⟩
    refine ⟨isCapped, ?_⟩
    rw [List.foldl_cons, found, first, if_neg (Ne.symm other), joined_joined, ← crossedFrom_or]
    refine congrArg (pace.joined · _) (crossedFrom_congr (fun connection _ => ?_) region)
    rw [List.contains_cons, beq_eq_decide]

/-- Smoke that was joined by fresh smoke before it grew is no thinner than fresh smoke, so it makes
no difference whether more arrives. -/
theorem joined_grown (below : pace.fresh ≤ 1) (grows : 0 ≤ pace.growth) (early late : Bool)
    (density : Rat) :
    pace.joined late (some (min 1 ((pace.joined early (some density)).getD 0 + pace.growth))) =
      some (if early then min 1 (max density pace.fresh + pace.growth)
        else if early || late then max (min 1 (density + pace.growth)) pace.fresh
        else min 1 (density + pace.growth)) := by
  cases early with
  | false => cases late <;> rfl
  | true =>
    cases late with
    | false => rfl
    | true =>
      have least : pace.fresh ≤ min 1 (max density pace.fresh + pace.growth) :=
        le_min below ((le_max_right _ _).trans (le_add_of_nonneg_right grows))
      exact congrArg some (max_eq_left least)

/-- Regions take their turns in ascending order.  The turns before that of a region are those of the
regions with lower numbers. -/
theorem find?_turns_of_source (below : pace.fresh ≤ 1) (grows : 0 ≤ pace.growth)
    {regions : List Int} (ascending : regions.Pairwise (· < ·)) (capped : Capped smoke)
    (leave : ∀ connection ∈ crossings, (connection.source : Int) ∈ regions)
    (isSource : region ∈ regions) {density : Rat} (found : smoke.find? region = some density) :
    (regions.foldl (pace.turn crossings) smoke).find? region =
      pace.outcome crossings region (some density) := by
  rcases List.append_of_mem isSource with ⟨earlier, later, rfl⟩
  rcases List.pairwise_append.mp ascending with ⟨-, onward, before⟩
  have lower : ∀ other ∈ earlier, other < region :=
    fun other isEarlier => before other isEarlier region List.mem_cons_self
  have higher : ∀ other ∈ later, region < other := (List.pairwise_cons.mp onward).1
  have apart : region ∉ earlier := fun isEarlier => lt_irrefl region (lower region isEarlier)
  have apartLater : region ∉ later := fun isLater => lt_irrefl region (higher region isLater)
  -- the value before its own turn, after it, and after all turns
  rcases find?_foldl_turn below crossings apart capped with ⟨cappedFirst, first⟩
  rcases find?_turn below crossings cappedFirst region region with
    ⟨cappedOwn, own⟩
  have last := (find?_foldl_turn below crossings apartLater cappedOwn).2
  have early : crossedFrom crossings earlier.contains region = isEarly crossings region := by
    refine crossedFrom_congr (fun connection crossed => ?_) region
    rw [Bool.eq_iff_iff, List.contains_iff_mem, decide_eq_true_iff]
    refine ⟨lower _, fun less => ?_⟩
    rcases List.mem_append.mp (leave connection crossed) with isEarlier | isOnward
    · exact isEarlier
    · rcases List.mem_cons.mp isOnward with here | isLater
      · exact absurd less (here ▸ lt_irrefl _)
      · exact absurd less (not_lt.mpr (le_of_lt (higher _ isLater)))
  have reached : (isEarly crossings region ||
      (crossedFrom crossings (fun source => decide (source = region)) region ||
        crossedFrom crossings later.contains region)) = isReached crossings region := by
    rw [← early, ← crossedFrom_or, ← crossedFrom_or]
    refine crossedFrom_congr (fun connection crossed => ?_) region
    have isSource := leave connection crossed
    simpa [List.contains_iff_mem] using isSource
  rw [List.foldl_append, List.foldl_cons, last, own, first, found, if_pos rfl, joined_joined, early]
  rw [joined_grown below grows, reached]
  rfl

/-- A region without smoke has no turn of its own. -/
theorem find?_turns_of_clear (below : pace.fresh ≤ 1) (nonneg : 0 ≤ pace.fresh)
    {regions : List Int} (capped : Capped smoke)
    (leave : ∀ connection ∈ crossings, (connection.source : Int) ∈ regions)
    (isClear : region ∉ regions) (empty : smoke.find? region = none) :
    (regions.foldl (pace.turn crossings) smoke).find? region =
      pace.outcome crossings region none := by
  have all : crossedFrom crossings regions.contains region = isReached crossings region :=
    crossedFrom_congr (fun connection crossed =>
      List.contains_iff_mem.mpr (leave connection crossed)) region
  rw [(find?_foldl_turn below crossings isClear capped).2, empty, all, joined, Option.getD_none,
    max_eq_right nonneg]
  rfl

/-- Whether smoke joins before it grows or after that. -/
theorem grown_joined_eq_iff {density fresh growth : Rat} (below : fresh ≤ 1) (grows : 0 ≤ growth) :
    min 1 (max density fresh + growth) = max (min 1 (density + growth)) fresh ↔
      fresh ≤ density ∨ growth = 0 ∨ fresh = 1 ∨ 1 ≤ density + growth := by
  constructor
  · intro same
    by_contra! room
    rcases room with ⟨thinner, isGrowing, notFull, within⟩
    have grows : 0 < growth := lt_of_le_of_ne grows (Ne.symm isGrowing)
    have notFull : fresh < 1 := lt_of_le_of_ne below notFull
    have denser : max (min 1 (density + growth)) fresh < min 1 (max density fresh + growth) := by
      rw [max_eq_right (le_of_lt thinner), min_eq_right (le_of_lt within)]
      exact max_lt (lt_min within (by linarith)) (lt_min notFull (by linarith))
    exact absurd same.symm (ne_of_lt denser)
  · rintro (denser | rfl | rfl | full)
    · rw [max_eq_left denser, max_eq_left (le_min below (by linarith))]
    · rw [add_zero, add_zero, max_min_distrib_right, max_eq_left below]
    · rw [max_eq_right (min_le_left _ _), min_eq_left]
      linarith [le_max_right density 1]
    · rw [min_eq_left full, max_eq_left below, min_eq_left]
      linarith [le_max_left density fresh]

/-- Early smoke grows with the smoke that it joins.  That it does makes no difference only if it is
no denser, if nothing grows, or if there is no room to grow. -/
theorem outcome_eq_snapshot_iff (below : pace.fresh ≤ 1) (grows : 0 ≤ pace.growth)
    (density : Rat) :
    pace.outcome crossings region (some density) = pace.snapshot crossings region (some density) ↔
      isEarly crossings region = false ∨ pace.fresh ≤ density ∨ pace.growth = 0 ∨
        pace.fresh = 1 ∨ 1 ≤ density + pace.growth := by
  unfold outcome snapshot
  dsimp only
  cases early : isEarly crossings region with
  | false => simp
  | true =>
    have reached : isReached crossings region = true := by
      rcases crossedFrom_iff.mp early with ⟨connection, crossed, -, leads⟩
      exact crossedFrom_iff.mpr ⟨connection, crossed, rfl, leads⟩
    rw [if_pos rfl, reached, if_pos rfl, Option.some.injEq, grown_joined_eq_iff below grows]
    exact (or_iff_right Bool.true_eq_false.mp).symm

end Pace

namespace Outbreak

variable {γ : Type} [RandomSource γ Rat] {outbreak : Outbreak Rat γ} {pace : Pace Rat}

theorem find?_call (due : outbreak.isDue = true) (paces : outbreak.settings.Paces pace)
    (inside : ∀ region ∈ outbreak.conditions.smoke.keys,
      outbreak.conditions.network.Holds region)
    (bounded : outbreak.conditions.Bounded) (moderate : Moderate pace.fresh)
    (grows : 0 ≤ pace.growth) (region : Int) :
    (outbreak.perform .spread).1.conditions.smoke.find? region =
      pace.outcome outbreak.crossings region (outbreak.conditions.smoke.find? region) := by
  rcases perform_spread_returned due (perform_spread_paced due paces inside) with ⟨-, -, moved⟩
  have capped : Pace.Capped outbreak.conditions.smoke :=
    fun other density found => (bounded other density found).2
  have leave : ∀ connection ∈ outbreak.crossings, (connection.source : Int) ∈ outbreak.sources :=
    fun connection crossed => source_of_crossing crossed
  rw [moved, paces.pace_eq]
  change (outbreak.sources.foldl (pace.turn outbreak.crossings)
    outbreak.conditions.smoke).find? region = _
  cases found : outbreak.conditions.smoke.find? region with
  | some density =>
    have isSource : region ∈ outbreak.sources :=
      mem_sources.mpr (Table.mem_keys_iff.mpr ⟨density, found⟩)
    exact Pace.find?_turns_of_source moderate.2 grows (sources_ascending outbreak) capped leave
      isSource found
  | none =>
    have isClear : region ∉ outbreak.sources := by
      rw [mem_sources]
      exact (Table.find?_eq_none_iff _ _).mp found
    exact Pace.find?_turns_of_clear moderate.2 moderate.1 capped leave isClear found

/-- A cycle makes of each region what early smoke, growth and late smoke make of it in this order.
If growth came first everywhere the numbering would not matter; a region comes out the same unless
smoke that arrives early is denser than what it joins and has room to grow. -/
theorem densities_after_cycle (due : outbreak.isDue = true)
    (paces : outbreak.settings.Paces pace)
    (inside : ∀ region ∈ outbreak.conditions.smoke.keys,
      outbreak.conditions.network.Holds region)
    (bounded : outbreak.conditions.Bounded) (moderate : Moderate pace.fresh)
    (grows : 0 ≤ pace.growth) :
    (outbreak.perform .spread).2 = .ok (some 0) ∧
    ∀ region, (outbreak.perform .spread).1.conditions.smoke.find? region =
        pace.outcome outbreak.crossings region (outbreak.conditions.smoke.find? region) ∧
      ((outbreak.perform .spread).1.conditions.smoke.find? region =
          pace.snapshot outbreak.crossings region (outbreak.conditions.smoke.find? region) ↔
        ∀ density, outbreak.conditions.smoke.find? region = some density →
          isEarly outbreak.crossings region = false ∨ pace.fresh ≤ density ∨ pace.growth = 0 ∨
            pace.fresh = 1 ∨ 1 ≤ density + pace.growth) := by
  refine ⟨perform_spread_paced due paces inside, fun region => ?_⟩
  have became := find?_call due paces inside bounded moderate grows region
  refine ⟨became, ?_⟩
  rw [became]
  cases outbreak.conditions.smoke.find? region with
  | none => exact iff_of_true rfl nofun
  | some density =>
    rw [Pace.outcome_eq_snapshot_iff moderate.2 grows]
    constructor
    · intro agrees other same
      cases same
      exact agrees
    · exact fun agrees => agrees density rfl

/-- Every call runs a cycle, and smoke is certain to cross. -/
def eagerSettings : Settings Rat :=
  { Settings.defaults with
    value := fun setting =>
      if setting = .spreadChance ∨ setting = .spreadDelay then .int 1 else setting.default }

def eagerPace : Pace Rat := ⟨Scalar.decimal 1 true 1, Scalar.decimal 3 true 1, 1⟩

theorem eagerSettings_paces : eagerSettings.Paces eagerPace := ⟨rfl, rfl, rfl⟩

/-- Dense smoke in one room of the row and thin smoke in the middle one. -/
def eagerRow (fire : Int) : Outbreak Rat (Steady Rat) where
  conditions := ((Conditions.ofNetwork Building.rowNetwork).fill fire (1 / 2)).fill 1 (1 / 10)
  settings := eagerSettings
  counter := 0
  source := ⟨0⟩

theorem eagerRow_inside {fire : Int} (inside : Building.rowNetwork.Holds fire) :
    ∀ region ∈ (eagerRow fire).conditions.smoke.keys, Building.rowNetwork.Holds region := by
  intro region held
  rcases Table.mem_keys_insert.mp held with rfl | held
  · exact ⟨by decide, by decide +kernel⟩
  · rcases Table.mem_keys_insert.mp held with rfl | none
    · exact inside
    · cases none

theorem eagerRow_bounded (fire : Int) : (eagerRow fire).conditions.Bounded := by
  intro region density found
  change (((∅ : Table Int Rat).insert fire (1 / 2)).insert 1 (1 / 10)).find? region = _ at found
  rw [Table.find?_insert, Table.find?_insert] at found
  split at found
  · cases found
    constructor <;> decide +kernel
  · split at found
    · cases found
      constructor <;> decide +kernel
    · cases found

/-- The regions of the row that hold smoke, if the dense smoke is at one of its ends. -/
theorem sources_eagerRow :
    (eagerRow 0).sources = [0, 1] ∧ (eagerRow 2).sources = [1, 2] :=
  ⟨sources_eq (by decide) fun _ => Iff.rfl,
    sources_eq (by decide) fun _ => (List.Perm.swap 2 1 []).mem_iff⟩

theorem densities_in_eager_row :
    ((eagerRow 0).perform .spread).2 = .ok (some 0) ∧
    ∀ region, ((eagerRow 0).perform .spread).1.conditions.smoke.find? region =
        eagerPace.outcome (eagerRow 0).crossings region
          ((eagerRow 0).conditions.smoke.find? region) ∧
      (((eagerRow 0).perform .spread).1.conditions.smoke.find? region =
          eagerPace.snapshot (eagerRow 0).crossings region
            ((eagerRow 0).conditions.smoke.find? region) ↔
        ∀ density, (eagerRow 0).conditions.smoke.find? region = some density →
          isEarly (eagerRow 0).crossings region = false ∨ eagerPace.fresh ≤ density ∨
            eagerPace.growth = 0 ∨ eagerPace.fresh = 1 ∨ 1 ≤ density + eagerPace.growth) := by
  exact densities_after_cycle (by decide +kernel) eagerSettings_paces
    (eagerRow_inside ⟨by decide, by decide +kernel⟩) (eagerRow_bounded 0)
    ⟨by decide +kernel, by decide +kernel⟩ (by decide +kernel)

/-- The same smoke in a row and in the row from its other end: the thin smoke in the middle comes
out denser where the dense smoke has the lower number. -/
theorem numbering_matters :
    ((eagerRow 0).perform .spread).1.conditions.smoke.find? 1 = some (2 / 5) ∧
    eagerPace.snapshot (eagerRow 0).crossings 1 ((eagerRow 0).conditions.smoke.find? 1) =
      some (3 / 10) ∧
    ((eagerRow 2).perform .spread).1.conditions.smoke.find? 1 = some (3 / 10) ∧
    eagerPace.snapshot (eagerRow 2).crossings 1 ((eagerRow 2).conditions.smoke.find? 1) =
      some (3 / 10) := by
  have became : ∀ fire, (eagerRow fire).isDue = true → Building.rowNetwork.Holds fire →
      ((eagerRow fire).perform .spread).1.conditions.smoke.find? 1 =
        eagerPace.outcome (eagerRow fire).crossings 1 ((eagerRow fire).conditions.smoke.find? 1) :=
    fun fire due inside => find?_call due eagerSettings_paces (eagerRow_inside inside)
      (eagerRow_bounded fire) ⟨by decide +kernel, by decide +kernel⟩ (by decide +kernel) 1
  rw [became 0 (by decide +kernel) ⟨by decide, by decide +kernel⟩,
    became 2 (by decide +kernel) ⟨by decide, by decide +kernel⟩]
  simp only [crossings, trials, sources_eagerRow.1, sources_eagerRow.2]
  decide +kernel

end Outbreak

end Egress
