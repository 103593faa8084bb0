import Mathlib.Algebra.Order.BigOperators.Group.Finset
import Mathlib.Algebra.BigOperators.Group.Finset.Piecewise
import Mathlib.Data.Int.Interval
import Egress.Proofs.Network
import Egress.Proofs.Search.Trail
import Egress.Proofs.Traversal

/-!
# Walks through what is known

A walk follows live connections from region to region.  Which regions it may leave is a parameter:
all regions of a building, or those that an awareness knows.  The total of a walk adds up the
effective weights of its connections from the left, starting from zero.

The search sees a known region as a list of arcs.  Trails along these arcs are the walks through
known regions, with the same totals.
-/

namespace Egress

variable {α : Type}

namespace Network

/-- Walks from a region that leave only known regions. -/
inductive Walk (network : Network α) (known : Int → Prop) (start : Int) :
    List (Connection α) → Int → Prop
  | stay : Walk network known start [] start
  | follow {walk : List (Connection α)} {connection : Connection α} {target : Int} :
      Walk network known start walk connection.source → known connection.source →
      connection ∈ network.connections → connection.destination = some target →
      Walk network known start (walk ++ [connection]) target

/-- The regions that a walk from a start passes, in order. -/
def passed (start : Int) (walk : List (Connection α)) : List Int :=
  start :: walk.filterMap fun connection => connection.destination

variable {network : Network α} {known : Int → Prop} {start region : Int}
  {walk : List (Connection α)}

theorem passed_append {connection : Connection α} {target : Int}
    (isTarget : connection.destination = some target) :
    passed start (walk ++ [connection]) = passed start walk ++ [target] := by
  simp only [passed, List.filterMap_append, List.filterMap_cons, isTarget, List.filterMap_nil,
    List.cons_append]

theorem passed_cons {connection : Connection α} {target : Int}
    (isTarget : connection.destination = some target) :
    passed start (connection :: walk) = start :: passed target walk := by
  simp only [passed, List.filterMap_cons, isTarget]

/-- A walk leaves only regions of the network, so it matters only which of these may be left. -/
theorem Walk.mono (formed : network.WellFormed) {other : Int → Prop}
    (implied : ∀ region, network.Holds region → known region → other region)
    (isWalk : network.Walk known start walk region) : network.Walk other start walk region := by
  induction isWalk with
  | stay => exact .stay
  | @follow walk connection target isWalk isKnown member isTarget hypothesis =>
    have inside : network.Holds connection.source :=
      ⟨Int.natCast_nonneg _, Int.ofNat_lt.mpr (formed.source_lt connection member)⟩
    exact hypothesis.follow (implied _ inside isKnown) member isTarget

theorem Walk.start_of_nil (isWalk : network.Walk known start [] region) : region = start := by
  generalize empty : ([] : List (Connection α)) = walk at isWalk
  cases isWalk with
  | stay => rfl
  | follow => exact absurd empty.symm (List.append_ne_nil_of_right_ne_nil _ (List.cons_ne_nil _ _))

/-- A walk through a connection leaves the start by it and goes on from the region behind it. -/
theorem Walk.uncons {connection : Connection α} {rest : List (Connection α)}
    (isWalk : network.Walk known start (connection :: rest) region) :
    connection.source = start ∧ known start ∧ connection ∈ network.connections ∧
      ∃ target, connection.destination = some target ∧ network.Walk known target rest region := by
  generalize whole : connection :: rest = walk at isWalk
  induction isWalk generalizing rest with
  | stay => cases whole
  | @follow before last target isWalk isKnown member isTarget hypothesis =>
    cases before with
    | nil =>
      cases whole
      have isStart := isWalk.start_of_nil
      exact ⟨isStart, isStart ▸ isKnown, member, target, isTarget, .stay⟩
    | cons first others =>
      cases whole
      rcases hypothesis rfl with ⟨isSource, startKnown, isMember, next, isNext, onward⟩
      exact ⟨isSource, startKnown, isMember, next, isNext,
        onward.follow isKnown member isTarget⟩

/-- A walk goes on through any connection that leaves its end. -/
theorem exists_walk_onward {source target : Int}
    (before : ∃ walk, network.Walk (fun _ => True) start walk source)
    (listed : ∃ connection ∈ network.connections,
      (connection.source : Int) = source ∧ connection.destination = some target) :
    ∃ walk, network.Walk (fun _ => True) start walk target := by
  rcases before with ⟨walk, isWalk⟩
  rcases listed with ⟨connection, member, rfl, isTarget⟩
  exact ⟨_, isWalk.follow trivial member isTarget⟩

/-- A walk may be begun a connection earlier. -/
theorem Walk.cons {connection : Connection α} {target : Int} (isKnown : known connection.source)
    (member : connection ∈ network.connections) (isTarget : connection.destination = some target)
    (isWalk : network.Walk known target walk region) :
    network.Walk known connection.source (connection :: walk) region := by
  induction isWalk with
  | stay => exact Walk.stay.follow isKnown member isTarget
  | follow isWalk lastKnown isMember isEnd hypothesis =>
    exact hypothesis.follow lastKnown isMember isEnd

/-- A walk from a region of the network leads to one. -/
theorem Walk.holds (formed : network.WellFormed) (inside : network.Holds start)
    (isWalk : network.Walk known start walk region) : network.Holds region := by
  cases isWalk with
  | stay => exact inside
  | follow _ _ member isTarget => exact formed.destination_lt _ member _ isTarget

/-- A walk passes one region more than it has connections. -/
theorem Walk.length_passed (isWalk : network.Walk known start walk region) :
    (passed start walk).length = walk.length + 1 := by
  induction isWalk with
  | stay => rfl
  | follow isWalk isKnown member isTarget hypothesis =>
    rw [passed_append isTarget, List.length_append, List.length_append, hypothesis]
    rfl

/-- The region passed last is the end of the walk. -/
theorem Walk.getElem?_passed (isWalk : network.Walk known start walk region) :
    (passed start walk)[walk.length]? = some region := by
  cases isWalk with
  | stay => rfl
  | follow isWalk isKnown member isTarget =>
    rw [passed_append isTarget, List.length_append, List.length_singleton, ← isWalk.length_passed]
    exact List.getElem?_concat_length

/-- With one connection more, a walk passes one region more, at its end. -/
theorem Walk.passed_onward (isWalk : network.Walk known start walk region)
    {connection : Connection α} {target : Int} (isTarget : connection.destination = some target)
    {count : Nat} {place : Int}
    (isPassed : (passed start (walk ++ [connection]))[count]? = some place) :
    (passed start walk)[count]? = some place ∨ count = walk.length + 1 ∧ place = target := by
  have length := isWalk.length_passed
  rw [passed_append isTarget] at isPassed
  rcases Nat.lt_or_ge count (passed start walk).length with early | late
  · rw [List.getElem?_append_left early] at isPassed
    exact Or.inl isPassed
  · rw [List.getElem?_append_right late, List.getElem?_singleton] at isPassed
    split at isPassed
    · cases isPassed
      exact Or.inr ⟨by omega, rfl⟩
    · cases isPassed

/-- A walk from a region of the network passes no others. -/
theorem Walk.holds_passed (formed : network.WellFormed) (inside : network.Holds start)
    (isWalk : network.Walk known start walk region) :
    ∀ place ∈ passed start walk, network.Holds place := by
  induction isWalk with
  | stay => exact fun place member => List.mem_singleton.mp member ▸ inside
  | follow isWalk isKnown member isTarget hypothesis =>
    intro place isPassed
    rw [passed_append isTarget] at isPassed
    rcases List.mem_append.mp isPassed with earlier | last
    · exact hypothesis place earlier
    · exact List.mem_singleton.mp last ▸ formed.destination_lt _ member _ isTarget

/-- A walk that passes no region twice has fewer connections than there are regions. -/
theorem Walk.length_lt_size (formed : network.WellFormed) (inside : network.Holds start)
    (isWalk : network.Walk known start walk region) (distinct : (passed start walk).Nodup) :
    walk.length < network.size := by
  have within : passed start walk ⊆ (List.range network.size).map Int.ofNat := by
    intro place isPassed
    rcases isWalk.holds_passed formed inside place isPassed with ⟨lower, upper⟩
    rcases Int.eq_ofNat_of_zero_le lower with ⟨index, rfl⟩
    exact List.mem_map_of_mem (List.mem_range.mpr (Int.ofNat_lt.mp upper))
  have fewer := (distinct.subperm within).length_le
  rwa [isWalk.length_passed, List.length_map, List.length_range] at fewer

/-- The network is well formed, and all base costs and the bounds of weights are numbers. -/
structure Weighable [Scalar α] (network : Network α) (settings : Settings α) : Prop where
  formed : network.WellFormed
  based : ∀ connection ∈ network.connections, connection.baseCost.isSome = true
  bounds : ∃ low high, (settings.value .weightFloor).number = .ok low ∧
    (settings.value .weightCeiling).number = .ok high

/-- The network is well formed, all base costs are numbers, and so are the bounds of weights, the
lower one positive. -/
structure Priced [Scalar α] (network : Network α) (settings : Settings α) : Prop where
  formed : network.WellFormed
  based : ∀ connection ∈ network.connections, connection.baseCost.isSome = true
  bounds : ∃ low high, (settings.value .weightFloor).number = .ok low ∧
    (settings.value .weightCeiling).number = .ok high ∧ Scalar.zero < low ∧ low ≤ high

theorem Priced.weighable [Scalar α] {settings : Settings α} (priced : network.Priced settings) :
    network.Weighable settings := by
  rcases priced.bounds with ⟨low, high, lowest, highest, -⟩
  exact ⟨priced.formed, priced.based, low, high, lowest, highest⟩

end Network

namespace Awareness

variable [Scalar α] {awareness : Awareness α}

/-- A region is known if the awareness is complete or the region was discovered. -/
def Knows (awareness : Awareness α) (region : Int) : Prop :=
  awareness.complete = true ∨ region ∈ awareness.discovered.map Int.ofNat

instance : DecidablePred awareness.Knows := fun _ => inferInstanceAs (Decidable (_ ∨ _))

/-- The effective weights of a walk added up from the left, starting from zero. -/
def total (awareness : Awareness α) (walk : List (Connection α)) : Except (Fault α) α :=
  walk.foldlM (fun sum connection => do return sum + (← awareness.weight connection.index))
    Scalar.zero

/-- The effective weights of the connections that there are. -/
def Weights (awareness : Awareness α) (weight : α) : Prop :=
  ∃ reference, awareness.weight reference = .ok weight

/-- What an awareness of a network is: the network is well formed, the tariff has a base cost for
each connection, and weights are held between two numbers, the lower one positive. -/
structure Sound (awareness : Awareness α) : Prop where
  formed : awareness.network.WellFormed
  based : awareness.tariff.baseCosts =
    awareness.network.connections.map fun connection => connection.baseCost
  bounded : ∃ low high, awareness.tariff.Bounded low high

/-- What a search needs of an awareness: the network is well formed and every connection has a
weight. -/
structure Weighed (awareness : Awareness α) : Prop where
  formed : awareness.network.WellFormed
  weighed : ∀ connection ∈ awareness.network.connections,
    ∃ weight, awareness.weight connection.index = .ok weight

/-- Whatever is discovered, an awareness of a priced network is sound before factors are written. -/
theorem sound_of_priced {network : Network α} {settings : Settings α}
    (priced : network.Priced settings) (complete : Bool) (discovered : List Nat) :
    Sound ⟨network, complete, discovered, Tariff.ofNetwork network settings⟩ := by
  refine ⟨priced.formed, rfl, ?_⟩
  rcases priced.bounds with ⟨low, high, lowest, highest, positive, ordered⟩
  refine ⟨low, high, lowest, highest, positive, ordered, ?_⟩
  intro base member
  rcases List.mem_map.mp member with ⟨connection, isConnection, rfl⟩
  exact priced.based connection isConnection

theorem Sound.weights_pos {awareness : Awareness Rat} (sound : awareness.Sound) :
    ∀ weight, awareness.Weights weight → 0 < weight := by
  rcases sound.bounded with ⟨low, high, bounded⟩
  rintro weight ⟨reference, weighed⟩
  exact Tariff.weight_pos bounded weighed

/-- Exact effective weights obey the laws of costs. -/
theorem Sound.laws {awareness : Awareness Rat} (sound : awareness.Sound) :
    LawfulCosts awareness.Weights :=
  .of_rat fun weight isWeight => le_of_lt (sound.weights_pos weight isWeight)

/-- The arc that a live connection is to a search. -/
def arc? (awareness : Awareness α) (connection : Connection α) : Option (Int × α) :=
  connection.destination.bind fun target =>
    (awareness.weight connection.index).toOption.map fun weight => (target, weight)

/-- The arcs that leave a region, which are none if the region is not known. -/
def arcsFrom (awareness : Awareness α) (region : Int) : List (Int × α) :=
  if awareness.Knows region then
    (awareness.network.connections.filter fun connection =>
      (connection.source : Int) == region).filterMap awareness.arc?
  else []

omit [Scalar α] in
theorem knows_natCast_iff {index : Nat} :
    awareness.Knows index ↔ awareness.complete = true ∨ index ∈ awareness.discovered := by
  apply or_congr_right
  rw [List.mem_map]
  constructor
  · rintro ⟨other, member, same⟩
    exact Int.ofNat.inj same ▸ member
  · intro member
    exact ⟨index, member, rfl⟩

omit [Scalar α] in
/-- Whether a region of the network is known. -/
theorem knows_of_lt {index : Nat} (inside : index < awareness.network.size) :
    awareness.knows index = .ok (decide (awareness.Knows index)) := by
  have same : decide (awareness.Knows index) =
      (awareness.complete || awareness.discovered.contains index) := by
    rw [Bool.eq_iff_iff, decide_eq_true_eq, knows_natCast_iff, Bool.or_eq_true,
      List.contains_iff_mem]
  unfold knows
  rw [same]
  by_cases complete : awareness.complete = true
  · rw [if_pos complete, complete, Bool.true_or]
  · rw [if_neg complete, Bool.eq_false_iff.mpr complete, Bool.false_or,
      Network.indexOf_of_lt inside]
    rfl

omit [Scalar α] in
/-- The known connections that leave a region of the network. -/
theorem edgesFrom_of_lt {index : Nat} (inside : index < awareness.network.size) :
    awareness.edgesFrom index =
      .ok (if awareness.Knows index then awareness.network.leaving index else []) := by
  unfold edgesFrom
  simp only [knows_of_lt inside, bind, Except.bind, decide_eq_true_eq]
  split
  · exact Network.outgoing_of_lt inside
  · rfl

omit [Scalar α] in
/-- The known regions of an awareness that does not know everything are found in the order of their
discovery. -/
theorem knownRegions_of_lt (numbered : awareness.network.Numbered)
    (partly : awareness.complete = false)
    (inside : ∀ index ∈ awareness.discovered, index < awareness.network.size) :
    ∃ known, awareness.knownRegions = .ok known ∧ known ⊆ awareness.network.regions ∧
      known.map Region.index = awareness.discovered := by
  unfold knownRegions
  rw [partly, if_neg Bool.false_ne_true]
  apply mapM_of_views
  intro index member
  rcases numbered.region_of_lt (inside index member) with ⟨region, found, isIndex, isRegion, -⟩
  exact ⟨region, isRegion, List.mem_of_getElem? found, isIndex⟩

/-- If bounds and base costs are numbers, every connection has a weight, whatever the factors
are. -/
theorem weighed_of_numeric (formed : awareness.network.WellFormed)
    (based : awareness.tariff.baseCosts =
      awareness.network.connections.map fun connection => connection.baseCost)
    {low high : α} (numeric : awareness.tariff.Numeric low high) : awareness.Weighed := by
  refine ⟨formed, fun connection member => ?_⟩
  have inside : connection.index < awareness.tariff.baseCosts.length := by
    rw [based, List.length_map]
    exact formed.index_lt_of_mem member
  rcases Tariff.weight_spec numeric inside with ⟨base, weight, -, weighed, -⟩
  exact ⟨weight, weighed⟩

theorem Sound.weighed (sound : awareness.Sound) : awareness.Weighed := by
  rcases sound.bounded with ⟨low, high, bounded⟩
  exact weighed_of_numeric sound.formed sound.based bounded.numeric

theorem arc?_eq_some_iff {connection : Connection α} {arc : Int × α} :
    awareness.arc? connection = some arc ↔
      connection.destination = some arc.1 ∧ awareness.weight connection.index = .ok arc.2 := by
  unfold arc?
  cases connection.destination with
  | none => simp
  | some target =>
    cases awareness.weight connection.index with
    | error fault => simp [Except.toOption]
    | ok weight => simp [Except.toOption, Prod.ext_iff]

theorem mem_arcsFrom {region : Int} {arc : Int × α} :
    arc ∈ awareness.arcsFrom region ↔ awareness.Knows region ∧
      ∃ connection ∈ awareness.network.connections, connection.source = region ∧
        connection.destination = some arc.1 ∧ awareness.weight connection.index = .ok arc.2 := by
  unfold arcsFrom
  by_cases isKnown : awareness.Knows region
  · rw [if_pos isKnown]
    simp only [List.mem_filterMap, List.mem_filter, beq_iff_eq, arc?_eq_some_iff, isKnown,
      true_and, and_assoc]
  · rw [if_neg isKnown]
    simp only [List.not_mem_nil, isKnown, false_and]

theorem weights_of_mem_arcsFrom (region : Int) :
    ∀ arc ∈ awareness.arcsFrom region, awareness.Weights arc.2 := by
  intro arc member
  rcases (mem_arcsFrom.mp member).2 with ⟨connection, -, -, -, weighed⟩
  exact ⟨connection.index, weighed⟩

/-- Arcs lead to regions of the network. -/
theorem Weighed.inside_of_mem_arcsFrom (weighed : awareness.Weighed) (region : Int) :
    ∀ arc ∈ awareness.arcsFrom region, 0 ≤ arc.1 ∧ arc.1 < awareness.network.size := by
  intro arc member
  rcases (mem_arcsFrom.mp member).2 with ⟨connection, isConnection, -, isTarget, -⟩
  exact weighed.formed.destination_lt connection isConnection arc.1 isTarget

/-- What is found by weighing the connections to regions that are not settled, if each of them has
a weight, are their arcs. -/
theorem arcs_of_weighed (settled : List Int) (connections : List (Connection α))
    {found : List (Int × α)}
    (opened : ((connections.filterMap fun connection =>
        connection.destination.bind fun destination =>
          if settled.contains destination then none else some (destination, connection.index)).mapM
      fun found : Int × Nat => do return (found.1, ← awareness.weight found.2)) = .ok found) :
    found = (connections.filterMap awareness.arc?).filter fun arc => !settled.contains arc.1 := by
  induction connections generalizing found with
  | nil =>
    cases opened
    rfl
  | cons connection others hypothesis =>
    rw [List.filterMap_cons] at opened ⊢
    cases isTarget : connection.destination with
    | none =>
      have notArc : awareness.arc? connection = none := by
        unfold arc?
        rw [isTarget, Option.bind_none]
      rw [isTarget, Option.bind_none] at opened
      rw [notArc]
      exact hypothesis opened
    | some target =>
      rw [isTarget, Option.bind_some] at opened
      by_cases done : settled.contains target = true
      · -- A connection to a settled region is not weighed, so it may be no arc at all.
        rw [if_pos done] at opened
        cases isArc : awareness.arc? connection with
        | none => exact hypothesis opened
        | some arc =>
          cases isTarget.symm.trans (arc?_eq_some_iff.mp isArc).1
          rw [List.filter_cons, done, hypothesis opened]
          rfl
      · rw [if_neg done] at opened
        dsimp only at opened
        rw [List.mapM_cons] at opened
        rcases bind_eq_ok.mp opened with ⟨arc, isFirst, rest⟩
        rcases bind_eq_ok.mp isFirst with ⟨weight, isWeight, first⟩
        rcases bind_eq_ok.mp rest with ⟨later, isLater, same⟩
        cases first
        cases same
        have isArc : awareness.arc? connection = some (target, weight) :=
          arc?_eq_some_iff.mpr ⟨isTarget, isWeight⟩
        rw [isArc, List.filter_cons, if_pos (by simpa using done), hypothesis isLater]

/-- Connections to regions that are not settled are weighed one by one. -/
theorem Weighed.weigh_ahead (weighed : awareness.Weighed) (settled : List Int)
    (connections : List (Connection α))
    (within : ∀ connection ∈ connections, connection ∈ awareness.network.connections) :
    ((connections.filterMap fun connection => connection.destination.bind fun destination =>
        if settled.contains destination then none else some (destination, connection.index)).mapM
      fun found : Int × Nat => do return (found.1, ← awareness.weight found.2)) =
    .ok ((connections.filterMap awareness.arc?).filter fun arc => !settled.contains arc.1) := by
  have opens : ∀ entry ∈ connections.filterMap (fun connection =>
      connection.destination.bind fun destination =>
        if settled.contains destination then none else some (destination, connection.index)),
      ∃ arc, (do return (entry.1, ← awareness.weight entry.2) : Except (Fault α) (Int × α)) =
        .ok arc ∧ True := by
    intro entry member
    rcases List.mem_filterMap.mp member with ⟨connection, isConnection, isEntry⟩
    rcases Option.bind_eq_some_iff.mp isEntry with ⟨target, -, unsettled⟩
    split at unsettled
    · cases unsettled
    · cases unsettled
      rcases weighed.weighed connection (within connection isConnection) with ⟨weight, isWeight⟩
      exact ⟨_, bind_eq_ok.mpr ⟨weight, isWeight, rfl⟩, trivial⟩
  rcases mapM_of_forall opens with ⟨found, opened, -⟩
  rw [opened, arcs_of_weighed settled connections opened]

/-- The arcs that leave a region of the network are those of its known connections. -/
theorem arcsFrom_natCast (index : Nat) : awareness.arcsFrom index =
    (if awareness.Knows index then awareness.network.leaving index else []).filterMap
      awareness.arc? := by
  have sameSource : (awareness.network.connections.filter fun connection =>
      ((connection.source : Int) == (index : Int))) = awareness.network.leaving index := by
    unfold Network.leaving
    congr 1
    funext connection
    rw [Bool.eq_iff_iff, beq_iff_eq, beq_iff_eq, Int.natCast_inj]
  unfold arcsFrom
  split
  · rw [sameSource]
  · rfl

/-- A search sees the arcs that lead to regions not settled yet. -/
theorem Weighed.openArcs_eq (weighed : awareness.Weighed) (settled : List Int) {region : Int}
    (inside : 0 ≤ region ∧ region < awareness.network.size) :
    awareness.openArcs settled region =
      .ok ((awareness.arcsFrom region).filter fun arc => !settled.contains arc.1) := by
  rcases Int.eq_ofNat_of_zero_le inside.1 with ⟨index, rfl⟩
  have isRegion : index < awareness.network.size := by omega
  unfold openArcs
  rw [edgesFrom_of_lt isRegion, arcsFrom_natCast]
  refine weighed.weigh_ahead settled _ fun connection member => ?_
  split at member
  · exact (Network.mem_leaving.mp member).1
  · cases member

omit [Scalar α] in
/-- Each connection leaves one region. -/
theorem sum_length_filter_source (connections : List (Connection α)) (domain : Finset Int) :
    ∑ region ∈ domain, (connections.filter fun connection =>
      (connection.source : Int) == region).length ≤ connections.length := by
  induction connections with
  | nil => simp
  | cons connection others hypothesis =>
    have split : ∀ region : Int, ((connection :: others).filter fun connection =>
        (connection.source : Int) == region).length =
        (if (connection.source : Int) = region then 1 else 0) +
          (others.filter fun connection => (connection.source : Int) == region).length := by
      intro region
      rw [List.filter_cons]
      split
      · rename_i same
        rw [if_pos (beq_iff_eq.mp same), List.length_cons, Nat.add_comm]
      · rename_i different
        rw [if_neg fun same => different (beq_iff_eq.mpr same), Nat.zero_add]
    rw [Finset.sum_congr rfl fun region _ => split region, Finset.sum_add_distrib,
      Finset.sum_ite_eq, List.length_cons]
    split <;> omega

/-- Each connection is an arc of at most one region. -/
theorem sum_length_arcsFrom (awareness : Awareness α) (domain : Finset Int) :
    ∑ region ∈ domain, (awareness.arcsFrom region).length ≤
      awareness.network.connections.length := by
  have few : ∀ region, (awareness.arcsFrom region).length ≤
      (awareness.network.connections.filter fun connection =>
        (connection.source : Int) == region).length := by
    intro region
    unfold arcsFrom
    split
    · exact List.length_filterMap_le _ _
    · exact Nat.zero_le _
  exact (Finset.sum_le_sum fun region _ => few region).trans (sum_length_filter_source _ domain)

/-! ## Trails and walks -/

theorem total_append {walk : List (Connection α)} {connection : Connection α} {cost weight : α}
    (summed : awareness.total walk = .ok cost)
    (weighed : awareness.weight connection.index = .ok weight) :
    awareness.total (walk ++ [connection]) = .ok (cost + weight) := by
  unfold total at summed ⊢
  rw [List.foldlM_append, summed]
  simp only [bind, Except.bind, List.foldlM_cons, weighed, List.foldlM_nil, pure, Except.pure]

/-- Every walk through known regions is a trail. -/
theorem Weighed.trail_of_walk (weighed : awareness.Weighed) {start region : Int}
    {walk : List (Connection α)}
    (isWalk : awareness.network.Walk awareness.Knows start walk region) :
    ∃ back cost, Search.Trail awareness.arcsFrom start (region :: back) cost ∧
      awareness.total walk = .ok cost := by
  induction isWalk with
  | stay => exact ⟨[], Scalar.zero, .start, rfl⟩
  | @follow walk connection target isWalk isKnown member isTarget hypothesis =>
    rcases hypothesis with ⟨back, cost, trail, summed⟩
    rcases weighed.weighed connection member with ⟨weight, isWeight⟩
    have isArc : (target, weight) ∈ awareness.arcsFrom connection.source :=
      mem_arcsFrom.mpr ⟨isKnown, connection, member, rfl, isTarget, isWeight⟩
    exact ⟨_, _, trail.step isArc, total_append summed isWeight⟩

/-- Every trail is a walk through known regions that passes the same regions, with the same
total. -/
theorem walk_of_trail {start : Int} {regions : List Int} {cost : α}
    (trail : Search.Trail awareness.arcsFrom start regions cost) :
    ∀ region back, regions = region :: back → ∃ walk,
      awareness.network.Walk awareness.Knows start walk region ∧
        awareness.total walk = .ok cost ∧ (Network.passed start walk).reverse = regions := by
  induction trail with
  | start =>
    intro region back same
    cases same
    exact ⟨[], .stay, rfl, rfl⟩
  | @step region back cost arc trail isArc hypothesis =>
    intro last before same
    cases same
    rcases hypothesis region back rfl with ⟨walk, isWalk, summed, passes⟩
    rcases mem_arcsFrom.mp isArc with ⟨isKnown, connection, member, rfl, isTarget, weighed⟩
    refine ⟨walk ++ [connection], isWalk.follow isKnown member isTarget,
      total_append summed weighed, ?_⟩
    rw [Network.passed_append isTarget, List.reverse_append, passes]
    rfl

end Awareness

end Egress
