import Egress.Proofs.Doubles
import Egress.Proofs.Exploration
import Egress.Proofs.Reordering
import Egress.Proofs.Verdict
import Egress.Twister

/-!
# From settings to factors

Settings are checked when they are accepted, and factors are checked when they are written.  The
second check looks for more than the first: a factor has to be finite as well as positive, and smoke
makes a factor out of a density that other settings govern.

Where the settings that are multiplied into costs are finite and smoke does not shrink, the checks
agree.  Densities then stay in their bounds through any calls on the outbreak, each verdict of the
usual sensors is a factor, and no run ends for the sake of a factor.  What else may fail, a sensor
fails with on other grounds.

Without these conditions the checks do not agree, as two settings show that are accepted.
-/

namespace Egress

open Scalar

variable {α σ γ : Type} [Scalar α]

/-! ## What the settings have passed -/

namespace Settings

variable {settings : Settings α}

/-- What settings that were accepted are known to hold. -/
structure Accepted (settings : Settings α) : Prop where
  category : ∀ category, ∃ factor,
    (settings.categoryFactor category).number? = some factor ∧ zero < factor
  blockedFactor : ∃ factor, (settings.value .blockedFactor).number? = some factor ∧ zero < factor
  returnFactor : ∃ factor, (settings.value .returnFactor).number? = some factor ∧ zero < factor
  smokeScale : ∃ scale, (settings.value .smokeScale).number? = some scale ∧ zero ≤ scale

/-- The numbers that are multiplied into costs are finite.  Nothing is said of a value that is no
number to compute with. -/
structure Finite (settings : Settings α) : Prop where
  category : ∀ category factor,
    (settings.categoryFactor category).number = .ok factor → isFinite factor = true
  blockedFactor : ∀ factor, settings.number .blockedFactor = .ok factor → isFinite factor = true
  returnFactor : ∀ factor, settings.number .returnFactor = .ok factor → isFinite factor = true
  smokeScale : ∀ scale, settings.number .smokeScale = .ok scale → isFinite scale = true

/-- Settings that are seen to be finite, value by value. -/
theorem finite_of_all
    (categories : ∀ category ∈ Category.vocabulary,
      (settings.categoryFactor category).number.toOption.all isFinite = true)
    (others : ∀ setting ∈ [Setting.blockedFactor, .returnFactor, .smokeScale],
      (settings.number setting).toOption.all isFinite = true) : settings.Finite := by
  have whole : ∀ {computed : Except (Fault α) α}, computed.toOption.all isFinite = true →
      ∀ number, computed = .ok number → isFinite number = true := by
    rintro computed seen number rfl
    exact seen
  exact ⟨fun category => whole (categories category category.mem_vocabulary),
    whole (others .blockedFactor (by decide)), whole (others .returnFactor (by decide)),
    whole (others .smokeScale (by decide))⟩

theorem requirePositive_eq_ok {value : Value α} {fault : Fault α}
    (passed : requirePositive value fault = .ok ()) :
    ∃ number, value.number? = some number ∧ zero < number := by
  unfold requirePositive at passed
  split at passed
  · rename_i number isNumber
    split at passed
    · rename_i positive
      exact ⟨number, isNumber, positive⟩
    · cases passed
  · cases passed

theorem requireNonnegative_eq_ok {value : Value α} {fault : Fault α}
    (passed : requireNonnegative value fault = .ok ()) :
    ∃ number, value.number? = some number ∧ zero ≤ number := by
  unfold requireNonnegative at passed
  split at passed
  · rename_i number isNumber
    split at passed
    · rename_i nonneg
      exact ⟨number, isNumber, nonneg⟩
    · cases passed
  · cases passed

/-- The checks pass if each of them does. -/
theorem check_eq_ok_iff {categories : List (Value α × Value α)} :
    settings.check categories = .ok () ↔
      (∀ category, requirePositive (settings.categoryFactor category)
        (.categoryFactorNotPositive category (settings.categoryFactor category)) = .ok ()) ∧
      (∀ entry ∈ categories, namesCategory entry.1 = true) ∧
      (∀ setting ∈ [Setting.blockedFactor, .returnFactor], requirePositive (settings.value setting)
        (.notPositive setting (settings.value setting)) = .ok ()) ∧
      requireNonnegative (settings.value .smokeScale)
        (.negative .smokeScale (settings.value .smokeScale)) = .ok () := by
  constructor
  · intro passed
    rcases bind_eq_ok.mp passed with ⟨_, table, rest⟩
    dsimp only at rest
    split at rest
    · cases rest
    · rename_i known
      rcases bind_eq_ok.mp rest with ⟨_, penalties, scale⟩
      simp only [List.forIn_cons, List.forIn_nil, bind_assoc, pure_bind] at penalties
      rcases bind_eq_ok.mp penalties with ⟨_, blocked, others⟩
      rcases bind_eq_ok.mp others with ⟨_, returning, -⟩
      refine ⟨fun category => forM_eq_ok_iff.mp table category category.mem_tableOrder,
        fun entry member => ?_, fun setting member => ?_, scale⟩
      · simpa using List.find?_eq_none.mp known entry member
      · rcases List.mem_pair.mp member with rfl | rfl
        · exact blocked
        · exact returning
  · rintro ⟨factors, known, penalties, scale⟩
    have none : categories.find? (fun entry => !namesCategory entry.1) = none :=
      List.find?_eq_none.mpr fun entry member => by simp [known entry member]
    unfold check
    rw [forM_eq_ok_iff.mpr fun category _ => factors category, none]
    simp only [List.forIn_cons, List.forIn_nil, bind_assoc, pure_bind]
    rw [penalties .blockedFactor (by decide), penalties .returnFactor (by decide)]
    exact scale

theorem accepted_of_check {categories : List (Value α × Value α)}
    (passed : settings.check categories = .ok ()) : settings.Accepted := by
  rcases check_eq_ok_iff.mp passed with ⟨factors, -, penalties, scale⟩
  exact ⟨fun category => requirePositive_eq_ok (factors category),
    requirePositive_eq_ok (penalties .blockedFactor (by decide)),
    requirePositive_eq_ok (penalties .returnFactor (by decide)), requireNonnegative_eq_ok scale⟩

/-- Settings made of overrides have passed every check. -/
theorem accepted_of_ofOverrides {overrides : Value α}
    (made : ofOverrides overrides = .ok settings) : settings.Accepted := by
  have whole : ∀ entries, ofEntries entries = .ok settings → settings.Accepted := by
    intro entries laid
    rcases bind_eq_ok.mp laid with ⟨categories, -, rest⟩
    rcases bind_eq_ok.mp rest with ⟨_, passed, same⟩
    cases same
    exact accepted_of_check passed
  unfold ofOverrides at made
  split at made
  · split at made
    · exact whole _ made
    · cases made
  · exact whole _ made

/-- The settings that overrides make if they are accepted. -/
theorem ofOverrides_of_isOk {overrides : Value α}
    (succeeded : (ofOverrides overrides).isOk = true) :
    ofOverrides overrides = .ok ((ofOverrides overrides).toOption.getD defaults) :=
  eq_ok_of_isOk succeeded defaults

/-- Overriding nothing leaves the defaults, if they pass the checks. -/
theorem ofOverrides_null (passed : (defaults : Settings α).check [] = .ok ()) :
    ofOverrides (.null : Value α) = .ok defaults := by
  have made : ofOverrides (.null : Value α) =
      (defaults.check []).bind fun _ => .ok (defaults : Settings α) := rfl
  rw [made, passed]
  rfl

end Settings

/-! ## Verdicts -/

/-- A value that is a factor if it is a number to compute with. -/
def Value.MakesFactor (value : Value α) : Prop :=
  ∀ factor, value.number = .ok factor → isFactor factor = true

theorem Value.makesFactor_of_positive {value : Value α}
    (positive : ∃ factor, value.number? = some factor ∧ zero < factor)
    (finite : ∀ factor, value.number = .ok factor → isFinite factor = true) :
    value.MakesFactor := by
  intro factor computed
  rcases positive with ⟨same, isNumber, above⟩
  cases isNumber.symm.trans (number?_of_number computed)
  exact Bool.and_eq_true_iff.mpr ⟨finite factor computed, decide_eq_true above⟩

variable [LawfulDensities α] {settings : Settings α} {world : World α σ} {field : Option Nat}

theorem Sensor.neutral_makesFactor : (neutral : Value α).MakesFactor := by
  rintro factor ⟨⟩
  exact LawfulDensities.isFactor_one

theorem Sensor.categoryFactor_makesFactor (accepted : settings.Accepted)
    (finite : settings.Finite) {source target : String} {value : Value α}
    (said : categoryFactor settings source target = .ok value) : value.MakesFactor := by
  unfold categoryFactor at said
  split at said
  · cases said
    exact neutral_makesFactor
  · split at said
    · cases said
    · rename_i kind _
      cases said
      exact Value.makesFactor_of_positive (accepted.category kind) (finite.category kind)

/-- Smoke makes a factor out of a density that is in bounds. -/
theorem Settings.Finite.smoke_makesFactor (finite : settings.Finite)
    (accepted : settings.Accepted) {scale density : α}
    (isScale : settings.number .smokeScale = .ok scale) (moderate : Moderate density) :
    (Value.real (one + scale * density)).MakesFactor := by
  rintro factor ⟨⟩
  rcases accepted.smokeScale with ⟨same, isNumber, nonneg⟩
  cases isNumber.symm.trans (Value.number?_of_number isScale)
  exact LawfulDensities.isFactor_smoke (finite.smokeScale scale isScale) nonneg moderate

/-- What the usual sensors say of a connection makes a factor. -/
theorem Sensor.verdict_makesFactor (accepted : settings.Accepted) (finite : settings.Finite)
    (bounded : ∀ number, field = some number → (world.conditions number).Bounded)
    {sensor : Sensor α} (member : sensor ∈ (Suite.standard field settings).sensors)
    {network : Network α} {source : Region α} {recent : List Int} {connection : Connection α}
    {value : Value α} (said : sensor.verdict world network source recent connection = .ok value) :
    value.MakesFactor := by
  rcases Suite.mem_standard member with rfl | rfl | rfl | ⟨number, isField, rfl | rfl⟩
  · cases said
  · unfold verdict at said
    dsimp only at said
    split at said
    · cases said
      exact neutral_makesFactor
    · rcases bind_eq_ok.mp said with ⟨target, -, chosen⟩
      exact categoryFactor_makesFactor accepted finite chosen
  · cases said
    split
    · exact Value.makesFactor_of_positive accepted.returnFactor finite.returnFactor
    · exact neutral_makesFactor
  · rw [verdict_smoke] at said
    rcases bind_eq_ok.mp said with ⟨density, isDensity, rest⟩
    rcases bind_eq_ok.mp rest with ⟨scale, isScale, same⟩
    cases same
    refine finite.smoke_makesFactor accepted isScale ?_
    cases isNext : connection.destination with
    | none =>
      rw [isNext] at isDensity
      cases isDensity
      exact LawfulDensities.moderate_zero
    | some next =>
      rw [isNext] at isDensity
      rcases bind_eq_ok.mp isDensity with ⟨region, -, same⟩
      cases same
      exact (bounded number isField).moderate_present region
  · rcases bind_eq_ok.mp said with ⟨isShut, -, same⟩
    cases same
    split
    · exact Value.makesFactor_of_positive accepted.blockedFactor finite.blockedFactor
    · exact neutral_makesFactor

/-! ## Faults -/

/-- A fault that does not say of a factor that it is none. -/
def Fault.SparesFactors (fault : Fault α) : Prop := fault.kind ≠ .invalidFactor

open Fault

omit [LawfulDensities α] in
theorem Network.regionFor_fails [Outline σ α] (network : Network α) (building : Building α σ)
    (point : Point α) (floor : Option Int) :
    FailsWith (fun fault => fault = .unlocated point)
      (network.regionFor building point floor) := by
  unfold regionFor
  split
  · exact .ok _
  · exact .error rfl

omit [LawfulDensities α] in
theorem number_spares (value : Value α) : FailsWith SparesFactors value.number :=
  Value.number_fails (by rintro ⟨⟩) (by rintro ⟨⟩) value

namespace Conditions

variable (conditions : Conditions α) (reference : Int)

omit [LawfulDensities α] in
theorem density_fails : FailsWith SparesFactors (conditions.density reference) := by
  refine .bind ?_ fun _ _ => .ok _
  unfold regionIndex
  split
  · exact .ok _
  · exact .error (by rintro ⟨⟩)

omit [Scalar α] [LawfulDensities α] in
theorem isBlocked_fails : FailsWith SparesFactors (conditions.isBlocked reference) := by
  refine .bind ?_ fun _ _ => .ok _
  unfold connectionIndex
  split
  · exact .ok _
  · exact .error (by rintro ⟨⟩)

end Conditions

omit [Scalar α] [LawfulDensities α] in
theorem Awareness.discover_fails (awareness : Awareness α) (reference : Int) :
    FailsWith SparesFactors (awareness.discover reference) := by
  refine .bind ?_ fun index _ => ?_
  · unfold Network.indexOf
    split
    · exact .ok _
    · exact .error (by rintro ⟨⟩)
  · split
    · exact .ok _
    · exact .ok _

namespace Sensor

omit [LawfulDensities α]

theorem verdict_fails (sensor : Sensor α) (network : Network α) (source : Region α)
    (recent : List Int) (connection : Connection α) :
    FailsWith SparesFactors (sensor.verdict world network source recent connection) := by
  cases sensor with
  | category settings =>
    unfold verdict
    dsimp only
    split
    · exact .ok _
    · refine .bind ?_ fun target _ => ?_
      · intro fault failed
        rw [Network.entryAt_error failed]
        rintro ⟨⟩
      · unfold categoryFactor
        split
        · exact .ok _
        · split
          · exact .error (by rintro ⟨⟩)
          · exact .ok _
  | history settings => exact .ok _
  | smoke number settings =>
    rw [verdict_smoke]
    refine .bind ?_ fun density _ => .bind (number_spares _) fun scale _ => .ok _
    cases connection.destination with
    | none => exact .ok _
    | some next => exact Conditions.density_fails _ next
  | blocked number settings =>
    exact (Conditions.isBlocked_fails _ _).bind fun _ _ => .ok _
  | blank | discovery | custom _ _ => exact .error (by rintro ⟨⟩)

theorem recalled_fails (sensor : Sensor α) (agent : Agent α) :
    FailsWith SparesFactors (sensor.recalled agent) := by
  cases sensor with
  | history settings =>
    change FailsWith SparesFactors (remembered settings agent)
    unfold remembered
    split
    · exact .error (by rintro ⟨⟩)
    · split
      · split
        · exact .ok _
        · exact .error (by rintro ⟨⟩)
      · exact .ok _
  | blank | discovery | category _ | smoke _ _ | blocked _ _ | custom _ _ => exact .ok _

theorem write_fails (name : String) {entries : List (Int × α)}
    (factors : ∀ entry ∈ entries, isFactor entry.2 = true) (tariff : Tariff α) :
    FailsWith SparesFactors (write name tariff entries).2 := by
  induction entries generalizing tariff with
  | nil => exact .ok _
  | cons entry rest hypothesis =>
    have others := hypothesis fun other member => factors other (List.mem_cons_of_mem _ member)
    rcases entry with ⟨reference, factor⟩
    rw [write]
    split
    · exact others _
    · rename_i fault refused
      unfold Tariff.setFactor Tariff.indexOf at refused
      rw [if_pos (factors _ List.mem_cons_self)] at refused
      split at refused
      · cases refused
      · cases refused
        exact .error (by rintro ⟨⟩)

variable [Outline σ α]

theorem observe_fails {sensor : Sensor α} (builtIn : sensor.isBuiltIn = true) (agent : Agent α)
    (awareness : Awareness α) :
    FailsWith SparesFactors (sensor.observe world agent awareness) := by
  cases judging : sensor.judges with
  | true =>
    rw [observe_of_judges judging]
    refine (recalled_fails sensor agent).bind fun recent _ => .bind ?_ fun source _ => .bind ?_ ?_
    · intro fault failed
      rw [Network.regionFor_fails _ _ _ _ fault failed]
      rintro ⟨⟩
    · refine .mapM fun connection _ => ?_
      exact (sensor.verdict_fails _ source recent connection).bind fun _ _ => .ok _
    · exact fun _ _ => .ok _
  | false =>
    cases sensor with
    | discovery => exact .ok _
    | blank => exact .error (by rintro ⟨⟩)
    | custom _ _ => cases builtIn
    | category _ | history _ | smoke _ _ | blocked _ _ => cases judging

/-- A sensor whose verdicts make factors is not refused for a factor. -/
theorem execute_fails {sensor : Sensor α} (builtIn : sensor.isBuiltIn = true)
    (makes : ∀ network source recent connection value,
      sensor.verdict world network source recent connection = .ok value → value.MakesFactor)
    (agent : Agent α) (awareness : Awareness α) :
    FailsWith SparesFactors (sensor.execute world agent awareness).2 := by
  by_cases isDiscovery : sensor = .discovery
  · subst isDiscovery
    unfold execute
    dsimp only
    split
    · rename_i fault lost
      rw [Network.regionFor_fails _ _ _ _ fault lost]
      exact .error (by rintro ⟨⟩)
    · split
      · rename_i fault refused
        exact .error (Awareness.discover_fails awareness _ fault refused)
      · exact .ok _
  · rw [execute_eq_written isDiscovery]
    have reading : FailsWith SparesFactors
        ((sensor.observe world agent awareness).bind (factorsIn sensor.name)) := by
      refine (observe_fails builtIn agent awareness).bind fun report observed => .mapM ?_
      rintro ⟨reference, value⟩ isEntry
      refine (number_spares value).bind fun factor computed => ?_
      rcases observe_cases builtIn observed with rfl | ⟨recent, source, -, -, reported⟩
      · exact absurd isEntry List.not_mem_nil
      · rcases mem_reportOn reported isEntry with ⟨connection, -, -, said⟩
        rw [if_pos (makes _ _ _ _ _ said factor computed)]
        exact .ok _
    cases read : (sensor.observe world agent awareness).bind (factorsIn sensor.name) with
    | error fault => exact .error (reading fault read)
    | ok factors =>
      rcases bind_eq_ok.mp read with ⟨report, -, readFrom⟩
      refine (write_fails sensor.name (fun entry member => ?_) awareness.tariff).map _
      rcases mem_factorsIn readFrom member with ⟨value, -, -, isFactor⟩
      exact isFactor

end Sensor

namespace Suite

omit [LawfulDensities α]

variable [Outline σ α]

/-- What ends a run is the fault of a sensor. -/
theorem runAll_fails {admitted : Fault α → Prop} {sensors : List (Sensor α)} {agent : Agent α}
    (each : ∀ sensor ∈ sensors, ∀ awareness,
      FailsWith admitted (sensor.execute world agent awareness).2)
    (awareness : Awareness α) {fault : Fault α}
    (ended : (runAll world agent awareness sensors).escaped = some fault) : admitted fault := by
  induction sensors generalizing awareness with
  | nil => cases ended
  | cons sensor rest hypothesis =>
    have others := hypothesis fun other member => each other (List.mem_cons_of_mem _ member)
    have first := each sensor List.mem_cons_self awareness
    rcases executed : sensor.execute world agent awareness with ⟨after, refusal | count⟩
    · rw [executed] at first
      simp only [runAll, executed] at ended
      split at ended
      · exact others after ended
      · cases ended
        exact first _ rfl
    · simp only [runAll, executed] at ended
      exact others after ended

/-- Under settings that were accepted, with finite factors and smoke that does not shrink, no run of
the usual sensors ends because of a factor, whatever was done to the conditions before. -/
theorem run_spares_factors [LawfulDensities α] [RandomSource γ α] {overrides : Value α}
    (accepted : Settings.ofOverrides overrides = .ok settings) (finite : settings.Finite)
    (grows : ∀ growth, settings.number .growth = .ok growth → ¬ growth < zero)
    (network : Network α) (source : γ) (calls : List (Outbreak.Call α γ))
    (kept : ∀ number, field = some number → world.conditions number =
      ((Outbreak.ofNetwork network settings source).performAll calls).conditions)
    (agent : Agent α) (awareness : Awareness α) :
    ((standard field settings).run world agent awareness).escaped.map Fault.kind ≠
      some .invalidFactor := by
  have tempered := Outbreak.tempered_performAll network source grows calls
  have bounded : ∀ number, field = some number → (world.conditions number).Bounded := by
    intro number isField
    rw [kept number isField]
    exact tempered.bounded
  intro invalid
  rcases Option.map_eq_some_iff.mp invalid with ⟨fault, ended, isInvalid⟩
  have spares : fault.SparesFactors := by
    refine runAll_fails (fun sensor member current => ?_) awareness ended
    refine Sensor.execute_fails (standard_builtIn field settings sensor member) ?_ agent current
    intro network source recent connection value said
    exact Sensor.verdict_makesFactor (Settings.accepted_of_ofOverrides accepted) finite bounded
      member said
  exact spares isInvalid

/-- How a run ends on the islands, for an agent that knows nothing and after calls on an
outbreak. -/
def endOnIslands (settings : Settings Float) (calls : List (Outbreak.Call Float Twister)) :
    Option FaultKind :=
  let outbreak := (Outbreak.ofNetwork Guidance.islandNetwork settings (.ofSeed 7)).performAll calls
  ((standard (some 0) settings).run ⟨Guidance.islands, fun _ => outbreak.conditions⟩
    Guidance.explorer (.ofNetwork Guidance.islandNetwork false settings)).escaped.map Fault.kind

/-- With the defaults, where smoke has spread and a door is blocked. -/
theorem run_spares_factors_on_islands :
    Settings.ofOverrides (.null : Value Float) = .ok .defaults ∧
      (Settings.defaults : Settings Float).Finite ∧
      (∀ growth : Float, Settings.defaults.number .growth = .ok growth → ¬ growth < zero) ∧
      endOnIslands .defaults [.ignite 1 none, .spread, .spread, .block 0] ≠
        some .invalidFactor := by
  have accepted : Settings.ofOverrides (.null : Value Float) = .ok .defaults :=
    Settings.ofOverrides_null (eq_ok_of_isOk (by decide +kernel) ())
  have finite : (Settings.defaults : Settings Float).Finite :=
    Settings.finite_of_all (by decide +kernel) (by decide +kernel)
  have grows : ∀ growth : Float, Settings.defaults.number .growth = .ok growth →
      ¬ growth < zero := by
    intro growth computed
    cases computed
    decide +kernel
  refine ⟨accepted, finite, grows, ?_⟩
  unfold endOnIslands
  refine run_spares_factors accepted finite grows Guidance.islandNetwork (Twister.ofSeed 7)
    [.ignite 1 none, .spread, .spread, .block 0] ?_ Guidance.explorer
    (.ofNetwork Guidance.islandNetwork false .defaults)
  intro number _
  dsimp only

/-- A blocked door is to cost more than any number. -/
def unlimited : Value Float := .mapping [(.text "blocked_factor", .real (1.0 / 0.0))]

/-- Smoke is to lose a whole density with each call. -/
def sinking : Value Float := .mapping
  [(.text "smoke_spread_delay", .int 1), (.text "smoke_spread_prob", .int 0),
    (.text "smoke_density_growth", .int (-1))]

/-- Both conditions are needed.  An infinite factor is accepted, and so is a growth below zero,
which drives a density out of its bounds; in either case a run ends because of a factor. -/
theorem run_refuses_factors :
    (∃ settings, Settings.ofOverrides unlimited = .ok settings ∧
      endOnIslands settings [.block 0] = some .invalidFactor) ∧
    ∃ settings, Settings.ofOverrides sinking = .ok settings ∧
      endOnIslands settings [.ignite 1 (some (.real 0.5)), .block 1, .spread] =
        some .invalidFactor := by
  refine ⟨⟨_, Settings.ofOverrides_of_isOk ?_, ?_⟩, ⟨_, Settings.ofOverrides_of_isOk ?_, ?_⟩⟩
  all_goals decide +kernel

end Suite

end Egress
