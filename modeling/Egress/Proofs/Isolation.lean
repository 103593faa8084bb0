import Egress.Proofs.Failure

/-!
# Sensors apart from each other

A sensor of a run ends as it would if it were executed first, since nothing of what sensors write
under other names shows in its report.  So each sensor of a suite can be judged by itself: on the
awareness with which a run starts it succeeds, or it is skipped, or it ends the run.

A sensor that is skipped has written nothing, because only a fault in writing comes late and no such
fault skips a sensor.  So the run of a suite is the run without its skipped sensors, apart from the
list of failures, which names just these.  The first sensor that ends a run gives its fault, and the
run is what it would be if the suite had no sensors after that one.
-/

namespace Egress

variable {α σ : Type} [Scalar α]

/-- A factor is refused with a fault that ends a run. -/
theorem Tariff.setFactor_fails (tariff : Tariff α) (reference : Int) (name : String) (factor : α) :
    FailsWith (fun fault => fault.skipsSensor = false)
      (tariff.setFactor reference name factor) := by
  unfold setFactor
  split
  · refine FailsWith.bind ?_ fun index _ => .ok _
    unfold indexOf
    split
    · exact .ok _
    · exact .error rfl
  · exact .error rfl

namespace Sensor

/-- A report that cannot be written to its end ends a run. -/
theorem write_ends_run (name : String) (tariff : Tariff α) (entries : List (Int × α)) :
    FailsWith (fun fault => fault.skipsSensor = false) (write name tariff entries).2 := by
  induction entries generalizing tariff with
  | nil => exact .ok _
  | cons entry rest hypothesis =>
    rcases entry with ⟨reference, factor⟩
    rw [write]
    split
    · exact hypothesis _
    · rename_i fault refused
      exact .error (tariff.setFactor_fails reference name factor fault refused)

variable [Outline σ α] {world : World α σ} {agent : Agent α} {awareness : Awareness α}
  {sensor : Sensor α}

/-- A sensor that is skipped leaves the awareness as it was. -/
theorem execute_of_skips {fault : Fault α}
    (failed : (sensor.execute world agent awareness).2 = .error fault)
    (skips : fault.skipsSensor = true) :
    sensor.execute world agent awareness = (awareness, .error fault) := by
  refine Prod.ext ?_ failed
  by_cases isDiscovery : sensor = .discovery
  · subst isDiscovery
    exact discovery_fails_clean failed
  rw [execute_eq_written isDiscovery] at failed ⊢
  cases read : (sensor.observe world agent awareness).bind (factorsIn sensor.name) with
  | error refusal => rfl
  | ok factors =>
    rw [read] at failed
    have late := (write_ends_run sensor.name awareness.tariff factors).map
      (fun _ => factors.length) fault failed
    cases skips.symm.trans late

end Sensor

namespace Suite

variable [Outline σ α] {world : World α σ} {agent : Agent α} {awareness : Awareness α}
  {sensors rest : List (Sensor α)} {sensor : Sensor α}

/-- The failure for which a sensor is skipped that is executed first, if it is skipped. -/
def skip? (world : World α σ) (agent : Agent α) (awareness : Awareness α) (sensor : Sensor α) :
    Option (String × Fault α) :=
  match (sensor.execute world agent awareness).2 with
  | .ok _ => none
  | .error fault => if fault.skipsSensor then some (sensor.name, fault) else none

/-- The fault with which a sensor ends a run that is executed first, if it ends the run. -/
def fatal? (world : World α σ) (agent : Agent α) (awareness : Awareness α) (sensor : Sensor α) :
    Option (Fault α) :=
  match (sensor.execute world agent awareness).2 with
  | .ok _ => none
  | .error fault => if fault.skipsSensor then none else some fault

/-- The suite without the sensors that are skipped. -/
def sparing (suite : Suite α) (world : World α σ) (agent : Agent α) (awareness : Awareness α) :
    Suite α :=
  { suite with
    sensors := suite.sensors.filter fun sensor => (skip? world agent awareness sensor).isNone }

/-- How a run begins with a sensor: it goes on with what the sensor leaves, or the sensor is skipped
and it goes on as if it had begun with the others, or it ends there. -/
inductive Begins (world : World α σ) (agent : Agent α) (awareness : Awareness α)
    (sensor : Sensor α) : Prop
  | succeeds : skip? world agent awareness sensor = none →
      fatal? world agent awareness sensor = none →
      (∀ rest, runAll world agent awareness (sensor :: rest) =
        runAll world agent (sensor.execute world agent awareness).1 rest) →
      Begins world agent awareness sensor
  | skipped {failure : String × Fault α} : skip? world agent awareness sensor = some failure →
      fatal? world agent awareness sensor = none →
      (∀ rest, runAll world agent awareness (sensor :: rest) =
        { runAll world agent awareness rest with
          failures := failure :: (runAll world agent awareness rest).failures }) →
      Begins world agent awareness sensor
  | ends {fault : Fault α} : skip? world agent awareness sensor = none →
      fatal? world agent awareness sensor = some fault →
      (∀ rest, runAll world agent awareness (sensor :: rest) =
        ⟨(sensor.execute world agent awareness).1, [], some fault⟩) →
      Begins world agent awareness sensor

theorem begins (world : World α σ) (agent : Agent α) (awareness : Awareness α)
    (sensor : Sensor α) : Begins world agent awareness sensor := by
  rcases executed : sensor.execute world agent awareness with ⟨after, fault | count⟩
  · by_cases skips : fault.skipsSensor = true
    · have clean := Sensor.execute_of_skips (congrArg Prod.snd executed) skips
      cases executed.symm.trans clean
      have isSkipped : skip? world agent awareness sensor = some (sensor.name, fault) := by
        simp only [skip?, executed, if_pos skips]
      refine .skipped isSkipped ?_ fun rest => ?_
      · simp only [fatal?, executed, if_pos skips]
      · simp only [runAll, executed, if_pos skips]
    · have isFatal : fatal? world agent awareness sensor = some fault := by
        simp only [fatal?, executed, if_neg skips]
      refine .ends ?_ isFatal fun rest => ?_
      · simp only [skip?, executed, if_neg skips]
      · simp only [runAll, executed, if_neg skips]
  · refine .succeeds ?_ ?_ fun rest => ?_
    · simp only [skip?, executed]
    · simp only [fatal?, executed]
    · simp only [runAll, executed]

/-- The other sensors of a suite are judged alike before and after its first sensor is executed. -/
theorem judged_after (distinct : ((sensor :: rest).map Sensor.name).Nodup) :
    ∀ other ∈ rest,
      skip? world agent (sensor.execute world agent awareness).1 other =
        skip? world agent awareness other ∧
      fatal? world agent (sensor.execute world agent awareness).1 other =
        fatal? world agent awareness other := by
  intro other member
  unfold skip? fatal?
  rw [(execute_after distinct world agent awareness other member).1]
  exact ⟨rfl, rfl⟩

/-- The fault that ends a run is that of the first sensor which ends a run by itself. -/
theorem runAll_escaped (distinct : (sensors.map Sensor.name).Nodup) (awareness : Awareness α) :
    (runAll world agent awareness sensors).escaped =
      sensors.findSome? (fatal? world agent awareness) := by
  induction sensors generalizing awareness with
  | nil => rfl
  | cons sensor rest hypothesis =>
    have others := hypothesis (List.nodup_cons.mp distinct).2
    rw [List.findSome?_cons]
    cases begins world agent awareness sensor with
    | succeeds _ notFatal goesOn =>
      rw [goesOn, notFatal, others, ← List.head?_filterMap, ← List.head?_filterMap]
      exact congrArg List.head? (List.filterMap_congr fun other member =>
        (judged_after distinct other member).2)
    | skipped _ notFatal goesOn => rw [goesOn, notFatal, others]
    | ends _ fatal stops => rw [stops, fatal]

/-- The failures of a run that is not ended are those of the sensors which are skipped by
themselves. -/
theorem runAll_failures (distinct : (sensors.map Sensor.name).Nodup)
    (contained : (runAll world agent awareness sensors).escaped = none) :
    (runAll world agent awareness sensors).failures =
      sensors.filterMap (skip? world agent awareness) := by
  induction sensors generalizing awareness with
  | nil => rfl
  | cons sensor rest hypothesis =>
    have apart := (List.nodup_cons.mp distinct).2
    cases begins world agent awareness sensor with
    | succeeds notSkipped _ goesOn =>
      rw [goesOn] at contained ⊢
      rw [List.filterMap_cons_none notSkipped, hypothesis apart contained]
      exact List.filterMap_congr fun other member => (judged_after distinct other member).1
    | skipped isSkipped _ goesOn =>
      rw [goesOn] at contained ⊢
      rw [List.filterMap_cons_some isSkipped, hypothesis apart contained]
    | ends _ _ stops =>
      rw [stops] at contained
      cases contained

/-- Without the sensors that are skipped, a run is the same but for its failures. -/
theorem runAll_sparing (distinct : (sensors.map Sensor.name).Nodup) (awareness : Awareness α) :
    runAll world agent awareness
        (sensors.filter fun sensor => (skip? world agent awareness sensor).isNone) =
      { runAll world agent awareness sensors with failures := [] } := by
  induction sensors generalizing awareness with
  | nil => rfl
  | cons sensor rest hypothesis =>
    have others := hypothesis (List.nodup_cons.mp distinct).2
    cases begins world agent awareness sensor with
    | succeeds notSkipped _ goesOn =>
      rw [List.filter_cons_of_pos (by rw [notSkipped]; rfl), goesOn, goesOn, ← others]
      refine congrArg _ (List.filter_congr fun other member => ?_)
      rw [(judged_after distinct other member).1]
    | skipped isSkipped _ goesOn =>
      rw [List.filter_cons_of_neg (by rw [isSkipped]; exact Bool.false_ne_true), goesOn, others]
    | ends notSkipped _ stops =>
      rw [List.filter_cons_of_pos (by rw [notSkipped]; rfl), stops, stops]

/-- A run is told by its sensors one by one, each judged on the awareness with which the run starts.
The first that ends a run gives the fault with which the run ends, and those after it are not
executed.  Otherwise the failures are those of the sensors that are skipped.  Whatever a run ends
with, it leaves what it would leave without the sensors that are skipped. -/
theorem run_isolates_failures {suite : Suite α} (distinct : suite.names.Nodup)
    (world : World α σ) (agent : Agent α) (awareness : Awareness α) :
    (suite.run world agent awareness).escaped =
      suite.sensors.findSome? (fatal? world agent awareness) ∧
    (∀ early sensor late, suite.sensors = early ++ sensor :: late →
      (fatal? world agent awareness sensor).isSome = true →
      suite.run world agent awareness = runAll world agent awareness (early ++ [sensor])) ∧
    ((suite.run world agent awareness).escaped = none →
      (suite.run world agent awareness).failures =
        suite.sensors.filterMap (skip? world agent awareness)) ∧
    (suite.sparing world agent awareness).run world agent awareness =
      { suite.run world agent awareness with failures := [] } := by
  refine ⟨runAll_escaped distinct awareness, ?_, runAll_failures distinct,
    runAll_sparing distinct awareness⟩
  intro early sensor late parts isFatal
  have rejoined : suite.sensors = (early ++ [sensor]) ++ late := by
    rw [parts, List.append_assoc, List.singleton_append]
  have begun : ((early ++ [sensor]).map Sensor.name).Nodup := by
    have whole : (suite.sensors.map Sensor.name).Nodup := distinct
    rw [rejoined, List.map_append] at whole
    exact whole.of_append_left
  have ended : ((early ++ [sensor]).findSome? (fatal? world agent awareness)).isSome = true :=
    List.findSome?_isSome_iff.mpr ⟨sensor, List.mem_append_right _ List.mem_cons_self, isFatal⟩
  rcases Option.isSome_iff_exists.mp ended with ⟨fault, isFault⟩
  rw [run, rejoined, runAll_append_of_escaped ((runAll_escaped begun awareness).trans isFault)]

/-- The usual sensors, a broken one, one that ends a run midway through its report, and another
broken one. -/
def flawed : Suite Rat where
  sensors := mixed.sensors ++
    [Sensor.halfKnown, .custom "alarm" (.fault (.reported .planning "no power"))]
  verbose := false

/-- In the row, a run that skips one sensor, is ended by the next, and does not get to the last. -/
theorem run_isolates_failures_in_row :
    let before : Awareness Rat := .inRow false []
    let run := flawed.run Guidance.calmRow Guidance.walker before
    flawed.names.Nodup ∧
    run.escaped = flawed.sensors.findSome? (fatal? Guidance.calmRow Guidance.walker before) ∧
    (∀ early sensor late, flawed.sensors = early ++ sensor :: late →
      (fatal? Guidance.calmRow Guidance.walker before sensor).isSome = true →
      run = runAll Guidance.calmRow Guidance.walker before (early ++ [sensor])) ∧
    (run.escaped = none → run.failures =
      flawed.sensors.filterMap (skip? Guidance.calmRow Guidance.walker before)) ∧
    (flawed.sparing Guidance.calmRow Guidance.walker before).run Guidance.calmRow Guidance.walker
      before = { run with failures := [] } :=
  have distinct : flawed.names.Nodup := by decide
  ⟨distinct, run_isolates_failures distinct Guidance.calmRow Guidance.walker (.inRow false [])⟩

end Suite

end Egress
