import Egress.Proofs.Reordering

/-!
# Taking a sensor out

A sensor that writes factors leaves nothing behind once it is taken out of a suite and its factors
are cleared.  The awarenesses that a suite worked on are then what they would be if the suite had
been built without the sensor, as far as regions, factors and weights go.

Throughout a run the two awarenesses are kept in step: the one that the sensor worked on, with the
factors under the sensor's name erased, lists the same factors in the same order as the other.
Writing under other names does not move an entry, so it may be exchanged with erasing the name, and
what the sensor itself writes is erased.  Tables of connections that only the sensor judged are
empty then, and an empty table counts like none.
-/

namespace Egress

variable {α : Type} [Scalar α] {name : String} {full lean : Awareness α}

namespace Awareness

/-- One awareness is the other without the factors under a name. -/
structure Without (name : String) (full lean : Awareness α) : Prop where
  network : lean.network = full.network
  complete : lean.complete = full.complete
  discovered : lean.discovered = full.discovered
  baseCosts : lean.tariff.baseCosts = full.tariff.baseCosts
  lowest : lean.tariff.lowest = full.tariff.lowest
  highest : lean.tariff.highest = full.tariff.highest
  tables : ∀ index, lean.tariff.of index = (full.tariff.of index).erase name

/-- Two awarenesses show the same regions, the same factors on each connection in the same order,
and the same weights. -/
structure Matches (first second : Awareness α) : Prop where
  network : second.network = first.network
  complete : second.complete = first.complete
  discovered : second.discovered = first.discovered
  regions : second.knownRegions = first.knownRegions
  factors : ∀ reference, second.tariff.factorsOf reference = first.tariff.factorsOf reference
  weights : ∀ reference, second.tariff.effective reference = first.tariff.effective reference

omit [Scalar α] in
/-- Without factors under the name, nothing is to be erased. -/
theorem without_of_blank {awareness : Awareness α}
    (blank : ∀ entry ∈ awareness.tariff.entries, entry.2.1 ≠ name) :
    Without name awareness awareness := by
  refine ⟨rfl, rfl, rfl, rfl, rfl, rfl, fun index => (Table.erase_of_notMem ?_).symm⟩
  intro isKey
  rcases Table.mem_keys_iff.mp isKey with ⟨factor, found⟩
  exact blank _ (Tariff.mem_entries_iff.mpr found) rfl

/-- Clearing the name makes up for the difference. -/
theorem Without.matches_clear (without : Without name full lean) :
    Matches { full with tariff := (full.tariff.clear name).1 } lean := by
  have tables : ∀ index, lean.tariff.of index = (full.tariff.clear name).1.of index :=
    fun index => (without.tables index).trans (full.tariff.of_clear name index).symm
  have baseCosts : lean.tariff.baseCosts = (full.tariff.clear name).1.baseCosts :=
    without.baseCosts
  have lowest : lean.tariff.lowest = (full.tariff.clear name).1.lowest := without.lowest
  have highest : lean.tariff.highest = (full.tariff.clear name).1.highest := without.highest
  refine ⟨without.network, without.complete, without.discovered, ?_, ?_, ?_⟩
  · simp only [knownRegions, without.network, without.complete, without.discovered]
  · intro reference
    simp only [Tariff.factorsOf, Tariff.indexOf, baseCosts, tables]
  · intro reference
    simp only [Tariff.effective, Tariff.indexOf, Tariff.product, baseCosts, lowest, highest, tables]

end Awareness

namespace Sensor

open Awareness

/-- Under other names the same is written, up to what the erased name holds. -/
theorem write_without {sensor : String} (different : sensor ≠ name)
    (without : Without name full lean) (entries : List (Int × α)) :
    (write sensor lean.tariff entries).2 = (write sensor full.tariff entries).2 ∧
      Without name { full with tariff := (write sensor full.tariff entries).1 }
        { lean with tariff := (write sensor lean.tariff entries).1 } := by
  induction entries generalizing full lean with
  | nil => exact ⟨rfl, without⟩
  | cons entry rest hypothesis =>
    rcases entry with ⟨reference, factor⟩
    rcases Tariff.setFactor_alike without.baseCosts reference sensor factor with
      ⟨fault, refused, alsoRefused⟩ | ⟨left, right, written, alsoWritten⟩
    · simp only [write, refused, alsoRefused]
      exact ⟨trivial, without⟩
    · simp only [write, written, alsoWritten]
      have onward : Without name { full with tariff := left } { lean with tariff := right } := by
        rcases Tariff.setFactor_frame written with ⟨costs, lowest, highest⟩
        rcases Tariff.setFactor_frame alsoWritten with ⟨leanCosts, leanLowest, leanHighest⟩
        refine ⟨without.network, without.complete, without.discovered, ?_, ?_, ?_, ?_⟩
        · exact (leanCosts.trans without.baseCosts).trans costs.symm
        · exact (leanLowest.trans without.lowest).trans lowest.symm
        · exact (leanHighest.trans without.highest).trans highest.symm
        · intro index
          rw [Tariff.of_setFactor written, Tariff.of_setFactor alsoWritten]
          split
          · rw [without.tables, Table.erase_insert_of_ne _ different]
          · exact without.tables index
      exact hypothesis onward

variable {σ : Type} [Outline σ α] {world : World α σ} {agent : Agent α}

/-- Sensors under other names do the same with the factors under the name and without them. -/
theorem execute_without {sensor : Sensor α} (different : sensor.name ≠ name)
    (without : Without name full lean) (world : World α σ) (agent : Agent α) :
    (sensor.execute world agent lean).2 = (sensor.execute world agent full).2 ∧
      Without name (sensor.execute world agent full).1 (sensor.execute world agent lean).1 := by
  by_cases isDiscovery : sensor = .discovery
  · subst isDiscovery
    have same : lean = { full with tariff := lean.tariff } := by
      rcases lean with ⟨network, complete, discovered, tariff⟩
      cases without.network
      cases without.complete
      cases without.discovered
      rfl
    have result := execute_discovery world agent full lean.tariff
    rw [← same] at result
    rw [result]
    refine ⟨rfl, ⟨rfl, rfl, rfl, ?_, ?_, ?_, ?_⟩⟩
    · exact without.baseCosts.trans (congrArg Tariff.baseCosts (tariff_discovery full)).symm
    · exact without.lowest.trans (congrArg Tariff.lowest (tariff_discovery full)).symm
    · exact without.highest.trans (congrArg Tariff.highest (tariff_discovery full)).symm
    · rw [tariff_discovery]
      exact without.tables
  · rcases execute_writer isDiscovery world agent full with ⟨fault, failed⟩ | ⟨factors, written⟩
    · rw [failed full rfl, failed lean without.network]
      exact ⟨rfl, without⟩
    · rcases write_without different without factors with ⟨sameResult, onward⟩
      rw [written full rfl, written lean without.network]
      exact ⟨by rw [sameResult], onward⟩

/-- What a sensor writes under its own name makes no difference without it. -/
theorem without_of_execute {sensor : Sensor α} (writer : sensor ≠ .discovery)
    (without : Without sensor.name full lean) (world : World α σ) (agent : Agent α) :
    Without sensor.name (sensor.execute world agent full).1 lean := by
  rcases execute_writer writer world agent full with ⟨fault, failed⟩ | ⟨factors, written⟩
  · rw [failed full rfl]
    exact without
  · rw [written full rfl]
    apply write_keeps fun tariff => Without sensor.name { full with tariff } lean
    · intro entry _ tariff after wrote before
      rcases Tariff.setFactor_frame wrote with ⟨costs, lowest, highest⟩
      refine ⟨before.network, before.complete, before.discovered, ?_, ?_, ?_, ?_⟩
      · exact before.baseCosts.trans costs.symm
      · exact before.lowest.trans lowest.symm
      · exact before.highest.trans highest.symm
      · intro index
        rw [Tariff.of_setFactor wrote]
        split
        · rw [Table.erase_insert_self]
          exact before.tables index
        · exact before.tables index
    · exact without

end Sensor

namespace Suite

open Awareness

variable {σ : Type} [Outline σ α] {world : World α σ} {agent : Agent α}

/-- A sensor whose fault, if it has one, only skips it. -/
def Tolerated (world : World α σ) (agent : Agent α) (awareness : Awareness α) (sensor : Sensor α) :
    Prop :=
  ∀ fault, (sensor.execute world agent awareness).2 = .error fault → fault.skipsSensor = true

variable {awareness : Awareness α} {sensor : Sensor α} {rest : List (Sensor α)}

/-- After a tolerated sensor a run goes on. -/
theorem runAll_of_tolerated (tolerated : Tolerated world agent awareness sensor)
    (rest : List (Sensor α)) :
    (runAll world agent awareness (sensor :: rest)).escaped =
        (runAll world agent (sensor.execute world agent awareness).1 rest).escaped ∧
      (runAll world agent awareness (sensor :: rest)).awareness =
        (runAll world agent (sensor.execute world agent awareness).1 rest).awareness := by
  unfold Tolerated at tolerated
  rcases executed : sensor.execute world agent awareness with ⟨after, fault | count⟩
  · rw [executed] at tolerated
    simp only [runAll, executed, if_pos (tolerated _ rfl)]
    exact ⟨trivial, trivial⟩
  · simp only [runAll, executed]
    exact ⟨trivial, trivial⟩

theorem tolerated_of_contained
    (contained : (runAll world agent awareness (sensor :: rest)).escaped = none) :
    Tolerated world agent awareness sensor := by
  intro fault failed
  rcases executed : sensor.execute world agent awareness with ⟨after, result⟩
  rw [executed] at failed
  cases failed
  rw [runAll, executed] at contained
  by_contra final
  simp [final] at contained

/-- The sensors of a list other than those with a name. -/
def others (name : String) (sensors : List (Sensor α)) : List (Sensor α) :=
  sensors.filter fun sensor => decide (sensor.name ≠ name)

/-- If a run ends of itself, so does the run without the sensors of a name, and they stay in
step. -/
theorem runAll_without {sensors : List (Sensor α)}
    (writers : ∀ sensor ∈ sensors, sensor.name = name → sensor ≠ .discovery)
    (without : Without name full lean)
    (contained : (runAll world agent full sensors).escaped = none) :
    (runAll world agent lean (others name sensors)).escaped = none ∧
      Without name (runAll world agent full sensors).awareness
        (runAll world agent lean (others name sensors)).awareness := by
  induction sensors generalizing full lean with
  | nil => exact ⟨rfl, without⟩
  | cons sensor rest hypothesis =>
    have tolerated := tolerated_of_contained contained
    rcases runAll_of_tolerated tolerated rest with ⟨ended, left⟩
    rw [ended] at contained
    rw [left]
    have laterWriters := fun other member => writers other (List.mem_cons_of_mem sensor member)
    by_cases same : sensor.name = name
    · have gone : others name (sensor :: rest) = others name rest :=
        List.filter_cons_of_neg (by simp [same])
      rw [gone]
      refine hypothesis laterWriters ?_ contained
      subst same
      exact Sensor.without_of_execute (writers sensor List.mem_cons_self rfl) without world agent
    · have kept : others name (sensor :: rest) = sensor :: others name rest :=
        List.filter_cons_of_pos (by simp [same])
      rcases Sensor.execute_without same without world agent with ⟨sameResult, onward⟩
      have alsoTolerated : Tolerated world agent lean sensor :=
        fun fault failed => tolerated fault (sameResult.symm.trans failed)
      rcases runAll_of_tolerated alsoTolerated (others name rest) with ⟨alsoEnded, alsoLeft⟩
      rw [kept, alsoEnded, alsoLeft]
      exact hypothesis laterWriters onward contained

/-! ## Runs over several awarenesses -/

/-- A run for an agent who uses one of several awarenesses, under the conditions of the moment. -/
structure Visit (α σ : Type) where
  map : Nat
  agent : Agent α
  world : World α σ

/-- Run a suite on the awareness of a visit. -/
def visit (suite : Suite α) (maps : List (Awareness α)) (visit : Visit α σ) :
    List (Awareness α) :=
  maps.modify visit.map fun awareness => (suite.run visit.world visit.agent awareness).awareness

/-- Run a suite on one awareness after another. -/
def visitAll (suite : Suite α) (maps : List (Awareness α)) (visits : List (Visit α σ)) :
    List (Awareness α) :=
  visits.foldl suite.visit maps

/-- No fault ends a run in a list of visits. -/
def Contained (suite : Suite α) (maps : List (Awareness α)) : List (Visit α σ) → Prop
  | [] => True
  | visit :: rest =>
    (∀ awareness ∈ maps[visit.map]?, (suite.run visit.world visit.agent awareness).escaped = none) ∧
      Contained suite (suite.visit maps visit) rest

omit [Scalar α] in
/-- Changing one entry in each of two lists keeps them related entry by entry. -/
theorem forall₂_modify {related : Awareness α → Awareness α → Prop}
    {first second : List (Awareness α)} (matched : List.Forall₂ related first second) (index : Nat)
    {change other : Awareness α → Awareness α}
    (changed : ∀ left ∈ first[index]?, ∀ right ∈ second[index]?, related left right →
      related (change left) (other right)) :
    List.Forall₂ related (first.modify index change) (second.modify index other) := by
  induction matched generalizing index with
  | nil =>
    rw [List.modify_nil, List.modify_nil]
    exact .nil
  | cons here rest hypothesis =>
    cases index with
    | zero =>
      rw [List.modify_zero_cons, List.modify_zero_cons]
      exact .cons (changed _ rfl _ rfl here) rest
    | succ index =>
      rw [List.modify_succ_cons, List.modify_succ_cons]
      exact .cons here (hypothesis index changed)

/-- Suites with and without the sensors of a name stay in step over any visits. -/
theorem visitAll_without {suite other : Suite α}
    (writers : ∀ sensor ∈ suite.sensors, sensor.name = name → sensor ≠ .discovery)
    (remaining : other.sensors = others name suite.sensors) {maps bare : List (Awareness α)}
    (without : List.Forall₂ (Without name) maps bare) {visits : List (Visit α σ)}
    (contained : suite.Contained maps visits) :
    other.Contained bare visits ∧
      List.Forall₂ (Without name) (suite.visitAll maps visits) (other.visitAll bare visits) := by
  induction visits generalizing maps bare with
  | nil => exact ⟨trivial, without⟩
  | cons visit rest hypothesis =>
    rcases contained with ⟨here, later⟩
    have ran : ∀ full ∈ maps[visit.map]?, ∀ lean ∈ bare[visit.map]?, Without name full lean →
        (other.run visit.world visit.agent lean).escaped = none ∧
          Without name (suite.run visit.world visit.agent full).awareness
            (other.run visit.world visit.agent lean).awareness := by
      intro full isFull lean _ inStep
      have both := runAll_without writers inStep (here full isFull)
      rwa [← remaining] at both
    have onward : List.Forall₂ (Without name) (suite.visit maps visit) (other.visit bare visit) :=
      forall₂_modify without visit.map fun full isFull lean isLean inStep =>
        (ran full isFull lean isLean inStep).2
    rcases hypothesis onward later with ⟨ended, left⟩
    refine ⟨⟨?_, ended⟩, left⟩
    intro lean isLean
    rcases List.getElem?_eq_some_iff.mp isLean with ⟨inside, rfl⟩
    have alsoInside : visit.map < maps.length := without.length_eq.symm ▸ inside
    exact (ran _ (List.getElem?_eq_getElem alsoInside) _ isLean (without.get alsoInside inside)).1

omit [Scalar α] in
/-- Removing a sensor by its name leaves the sensors of other names. -/
theorem remove_of_mem {suite : Suite α} (distinct : suite.names.Nodup) {sensor : Sensor α}
    (member : sensor ∈ suite.sensors) :
    suite.remove sensor.name =
      .ok (sensor, { suite with sensors := others sensor.name suite.sensors }) := by
  have whole : ∀ sensors : List (Sensor α), (sensors.map Sensor.name).Nodup → sensor ∈ sensors →
      (sensors.find? fun present => present.name == sensor.name) = some sensor ∧
        (sensors.eraseP fun present => present.name == sensor.name) =
          others sensor.name sensors := by
    intro sensors distinct member
    induction sensors with
    | nil => exact absurd member List.not_mem_nil
    | cons first rest hypothesis =>
      rw [List.map_cons, List.nodup_cons] at distinct
      rcases List.mem_cons.mp member with rfl | later
      · have kept : others sensor.name rest = rest := by
          refine List.filter_eq_self.mpr fun present isPresent => decide_eq_true fun same => ?_
          exact distinct.1 (same ▸ List.mem_map_of_mem isPresent)
        refine ⟨List.find?_cons_of_pos (by simp), ?_⟩
        rw [List.eraseP_cons_of_pos (by simp), others, List.filter_cons_of_neg (by simp)]
        exact kept.symm
      · have different : first.name ≠ sensor.name := fun same =>
          distinct.1 (same ▸ List.mem_map_of_mem later)
        rcases hypothesis distinct.2 later with ⟨found, erased⟩
        refine ⟨(List.find?_cons_of_neg (by simp [different])).trans found, ?_⟩
        rw [List.eraseP_cons_of_neg (by simp [different]), erased, others, others,
          List.filter_cons_of_pos (by simp [different])]
  rcases whole suite.sensors distinct member with ⟨found, erased⟩
  rw [remove, found]
  dsimp only
  rw [erased]

/-- A sensor that is disabled leaves no trace: its factors are gone, and everything else is as if
the suite had been built without it. -/
theorem disable_leaves_no_trace {suite other : Suite α} (distinct : suite.names.Nodup)
    {sensor : Sensor α} (member : sensor ∈ suite.sensors) (writer : sensor ≠ .discovery)
    (remaining : other.sensors = suite.sensors.filter fun present => present.name ≠ sensor.name)
    {maps : List (Awareness α)}
    (blank : ∀ awareness ∈ maps, ∀ entry ∈ awareness.tariff.entries, entry.2.1 ≠ sensor.name)
    {visits : List (Visit α σ)} (contained : suite.Contained maps visits) :
    other.Contained maps visits ∧ ∃ rest left,
      suite.disable sensor.name (suite.visitAll maps visits) = .ok (sensor, rest, left) ∧
      rest.sensors = other.sensors ∧
      List.Forall₂ Matches left (other.visitAll maps visits) := by
  have writers : ∀ present ∈ suite.sensors, present.name = sensor.name → present ≠ .discovery := by
    intro present isPresent same
    rwa [List.inj_on_of_nodup_map distinct isPresent member same]
  have start : List.Forall₂ (Without sensor.name) maps maps :=
    List.forall₂_same.mpr fun awareness isMap => without_of_blank (blank awareness isMap)
  rcases visitAll_without writers remaining start contained with ⟨ended, inStep⟩
  have disabled : suite.disable sensor.name (suite.visitAll maps visits) =
      .ok (sensor, { suite with sensors := others sensor.name suite.sensors },
        (suite.visitAll maps visits).map fun awareness =>
          { awareness with tariff := (awareness.tariff.clear sensor.name).1 }) := by
    rw [disable, remove_of_mem distinct member]
    rfl
  refine ⟨ended, _, _, disabled, remaining.symm, ?_⟩
  rw [List.forall₂_map_left_iff]
  exact inStep.imp fun full lean without => without.matches_clear

/-- The row with smoke behind the door of the first room. -/
def smokyRow : World Rat (Box Rat) :=
  ⟨Building.row, fun _ => (Conditions.ofNetwork Building.rowNetwork).fill 1 (1 / 2)⟩

/-- Two agents in the row, while smoke comes up. -/
def rounds : List (Visit Rat (Box Rat)) :=
  [⟨0, Guidance.walker, Guidance.calmRow⟩,
    ⟨1, { Guidance.walker with pid := 2, position := ⟨3, 1⟩, history := [0] }, smokyRow⟩,
    ⟨0, Guidance.walker, smokyRow⟩]

theorem disable_leaves_no_trace_in_row :
    let maps := [Awareness.inRow false [], .inRow true []]
    let other : Suite Rat := ⟨mixed.sensors.eraseIdx 3, false⟩
    other.Contained maps rounds ∧ ∃ rest left,
      mixed.disable "SmokeSensor" (mixed.visitAll maps rounds) =
        .ok (.smoke 0 .defaults, rest, left) ∧
      rest.sensors = other.sensors ∧ List.Forall₂ Matches left (other.visitAll maps rounds) := by
  have member : (.smoke 0 .defaults : Sensor Rat) ∈ mixed.sensors :=
    List.mem_of_getElem? (show mixed.sensors[3]? = _ from rfl)
  have contained : mixed.Contained [.inRow false [], .inRow true []] rounds := by
    refine ⟨?_, ?_, ?_, trivial⟩
    all_goals
      rintro awareness ⟨⟩
      exact Option.isNone_iff_eq_none.mp (by decide +kernel)
  refine disable_leaves_no_trace (by decide) member (fun same => ?_) rfl ?_ contained
  · cases same
  · intro awareness isMap entry isEntry
    rcases List.mem_pair.mp isMap with rfl | rfl
    · cases isEntry
    · cases isEntry

end Suite

end Egress
