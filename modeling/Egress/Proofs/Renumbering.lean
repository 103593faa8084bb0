import Mathlib.Logic.Equiv.Basic
import Egress.Proofs.Rectangle
import Egress.Proofs.Route
import Egress.Proofs.Search.Renumbering

/-!
# The numbers of regions

A building has no natural order of its regions, so nothing should depend on how they are numbered.
If the regions of a network get other numbers, the connections and the known regions are renumbered
with them, and each region keeps the order and the weights of the connections that leave it, then
every search ends in the renumbered state, with the same costs, and every route is the renumbered
route.  A fault that names two regions names them by their new numbers, and any other fault stays.

Nothing is asked of the arithmetic, since a search goes through the same turns for the same reasons
under both numberings.  In particular ties are never decided by the number of a region: a search
that compares even these where everything else is equal finds nothing else.
-/

namespace Egress

variable {α : Type} {numbering : Equiv.Perm Int}

/-- A missing route is missing between the renumbered regions. -/
def Fault.renumber (numbering : Equiv.Perm Int) : Fault α → Fault α
  | .noRoute source target => .noRoute (numbering source).toNat (numbering target).toNat
  | fault => fault

/-- A fault that names no regions of a missing route. -/
def Fault.Unnumbered (numbering : Equiv.Perm Int) (fault : Fault α) : Prop :=
  fault.renumber numbering = fault

def Connection.renumber (numbering : Equiv.Perm Int) (connection : Connection α) : Connection α :=
  { connection with
    source := (numbering connection.source).toNat
    destination := connection.destination.map numbering }

/-- The network with other numbers for its regions, which are listed in their new order. -/
def Network.renumber (numbering : Equiv.Perm Int) (network : Network α) : Network α :=
  ofLists
    ((network.regions.map fun region =>
      { region with index := (numbering region.index).toNat }).mergeSort
        fun first second => first.index ≤ second.index)
    (network.connections.map (Connection.renumber numbering))

/-- Regions become regions. -/
theorem Network.holds_numbering {network : Network α}
    (fixed : ∀ region, ¬ network.Holds region → numbering region = region) {region : Int}
    (held : network.Holds region) : network.Holds (numbering region) := by
  by_contra outside
  have same := numbering.injective (fixed _ outside)
  exact outside (same.symm ▸ held)

theorem Network.toNat_numbering {network : Network α}
    (fixed : ∀ region, ¬ network.Holds region → numbering region = region) (index : Nat) :
    ((numbering index).toNat : Int) = numbering index := by
  apply Int.toNat_of_nonneg
  by_cases held : network.Holds index
  · exact (holds_numbering fixed held).1
  · rw [fixed _ held]
    exact Int.natCast_nonneg index

namespace Awareness

variable [Scalar α] {awareness first second : Awareness α}

/-! ## What a search asks of an awareness -/

/-- The ends and indices of the connections among some that lead to unsettled regions. -/
def ahead (settled : List Int) (connections : List (Connection α)) : List (Int × Nat) :=
  connections.filterMap fun connection => connection.destination.bind fun destination =>
    if settled.contains destination then none else some (destination, connection.index)

def weigh (awareness : Awareness α) (found : List (Int × Nat)) :
    Except (Fault α) (List (Int × α)) :=
  found.mapM fun (destination, index) => do return (destination, ← awareness.weight index)

theorem openArcs_eq_bind (settled : List Int) (region : Int) :
    awareness.openArcs settled region =
      (awareness.edgesFrom region).bind fun connections =>
        awareness.weigh (ahead settled connections) := rfl

omit [Scalar α] in
theorem edgesFrom_of_missing {region : Int} {fault : Fault α}
    (missing : awareness.network.indexOf region = .error fault) :
    awareness.edgesFrom region = .error fault := by
  unfold edgesFrom knows Network.outgoing
  rw [missing]
  by_cases complete : awareness.complete = true
  · rw [if_pos complete]
    rfl
  · rw [if_neg complete]
    rfl

theorem openArcs_fails (settled : List Int) (region : Int) :
    FailsWith (Fault.Unnumbered numbering) (awareness.openArcs settled region) := by
  have outgoing : FailsWith (Fault.Unnumbered numbering) (awareness.edgesFrom region) := by
    by_cases held : awareness.network.Holds region
    · rcases Int.eq_ofNat_of_zero_le held.1 with ⟨index, rfl⟩
      rw [edgesFrom_of_lt (Int.ofNat_lt.mp held.2)]
      exact .ok _
    · rw [edgesFrom_of_missing (if_neg held)]
      exact .error rfl
  refine outgoing.bind fun connections _ => .mapM fun found _ => ?_
  have weighing : FailsWith (Fault.Unnumbered numbering) (awareness.weight found.2) := by
    refine Tariff.weight_fails ?_ ?_ ?_ <;> exact rfl
  exact weighing.bind fun weight _ => .ok _

theorem search_fails (start : Nat) (goal : Option Nat) :
    FailsWith (Fault.Unnumbered numbering) (awareness.search start goal) :=
  Search.run_fails openArcs_fails _ _

/-- A search that compares waiting entries in another way. -/
def searchBy (before : Search.Waiting α → Search.Waiting α → Bool) (awareness : Awareness α)
    (source : Nat) (goal : Option Nat) : Except (Fault α) (Search.State α) :=
  Search.runBy before awareness.openArcs (goal.map Int.ofNat)
    (awareness.network.connections.length + 2) (Search.startBy before source)

theorem searchBy_before (source : Nat) (goal : Option Nat) :
    awareness.searchBy Search.Waiting.before source goal = awareness.search source goal :=
  Search.runBy_before _ _ _ _

/-! ## Renumbered awarenesses -/

/-- Two connections of two awarenesses lead to corresponding places and weigh the same. -/
structure Corresponds (numbering : Equiv.Perm Int) (first second : Awareness α)
    (one other : Connection α) : Prop where
  destination : other.destination = one.destination.map numbering
  weight : second.weight other.index = first.weight one.index

/-- One awareness is another one with the regions renumbered. -/
structure Renumbering (numbering : Equiv.Perm Int) (first second : Awareness α) : Prop where
  /-- Only regions get other numbers. -/
  fixed : ∀ region, ¬ first.network.Holds region → numbering region = region
  size : second.network.size = first.network.size
  count : second.network.connections.length = first.network.connections.length
  known : ∀ region, first.network.Holds region →
    (second.Knows (numbering region) ↔ first.Knows region)
  /-- Connections that leave a region keep their order. -/
  leaving : ∀ source target : Nat, source < first.network.size → numbering source = target →
    List.Forall₂ (Corresponds numbering first second) (first.network.leaving source)
      (second.network.leaving target)

namespace Renumbering

variable (renumbering : Renumbering numbering first second)

include renumbering

/-- A reference is to a region under both numberings or under none. -/
theorem reference_cases (reference : Int) :
    (∃ index target : Nat, reference = index ∧ numbering reference = target ∧
      index < first.network.size ∧ target < second.network.size) ∨
    numbering reference = reference ∧
      first.network.indexOf reference = .error (.noRegionIndex reference) ∧
      second.network.indexOf reference = .error (.noRegionIndex reference) := by
  by_cases held : first.network.Holds reference
  · have still := Network.holds_numbering renumbering.fixed held
    rcases Int.eq_ofNat_of_zero_le held.1 with ⟨index, isIndex⟩
    rcases Int.eq_ofNat_of_zero_le still.1 with ⟨target, isTarget⟩
    refine Or.inl ⟨index, target, isIndex, isTarget, ?_, ?_⟩
    · exact Int.ofNat_lt.mp (isIndex ▸ held.2)
    · exact renumbering.size ▸ Int.ofNat_lt.mp (isTarget ▸ still.2)
  · have alsoOutside : ¬ second.network.Holds reference := by
      unfold Network.Holds at held ⊢
      rwa [renumbering.size]
    exact Or.inr ⟨renumbering.fixed reference held, if_neg held, if_neg alsoOutside⟩

omit renumbering in
theorem ahead_renumber {connections others : List (Connection α)}
    (matched : List.Forall₂ (Corresponds numbering first second) connections others)
    (settled : List Int) :
    List.Forall₂ (fun one other =>
        other.1 = numbering one.1 ∧ second.weight other.2 = first.weight one.2)
      (ahead settled connections) (ahead (settled.map numbering) others) := by
  refine List.rel_filterMap (fun one other corresponds => ?_) matched
  rw [corresponds.destination]
  cases one.destination with
  | none => exact .none
  | some target =>
    have sameSettled : (settled.map numbering).contains (numbering target) =
        settled.contains target := by
      rw [Bool.eq_iff_iff, List.contains_iff_mem, List.contains_iff_mem]
      exact List.mem_map_of_injective numbering.injective
    simp only [Option.map_some, Option.bind_some, sameSettled]
    split
    · exact .none
    · exact .some ⟨rfl, corresponds.weight⟩

omit renumbering in
theorem weigh_renumber {found also : List (Int × Nat)}
    (matched : List.Forall₂ (fun one other =>
      other.1 = numbering one.1 ∧ second.weight other.2 = first.weight one.2) found also) :
    second.weigh also =
      (first.weigh found).map (List.map fun arc => (numbering arc.1, arc.2)) := by
  refine mapM_map_of_forall₂ matched ?_
  rintro ⟨target, index⟩ ⟨_, other⟩ ⟨rfl, sameWeight⟩
  dsimp only at sameWeight ⊢
  rw [sameWeight]
  cases first.weight index <;> rfl

theorem openArcs_renumber (settled : List Int) (region : Int) :
    second.openArcs (settled.map numbering) (numbering region) =
      (first.openArcs settled region).map (List.map fun arc => (numbering arc.1, arc.2)) := by
  rw [openArcs_eq_bind, openArcs_eq_bind]
  rcases renumbering.reference_cases region with
    ⟨index, target, rfl, isTarget, inside, alsoInside⟩ | ⟨same, missing, alsoMissing⟩
  · have sameKnown := renumbering.known index ⟨Int.natCast_nonneg _, Int.ofNat_lt.mpr inside⟩
    rw [isTarget] at sameKnown ⊢
    rw [edgesFrom_of_lt inside, edgesFrom_of_lt alsoInside, if_congr sameKnown rfl rfl]
    split
    · exact weigh_renumber
        (ahead_renumber (renumbering.leaving index target inside isTarget) settled)
    · rfl
  · rw [same, edgesFrom_of_missing missing, edgesFrom_of_missing alsoMissing]
    rfl

/-- Whatever decides between entries that arrived at once, the searches correspond. -/
theorem searchBy_renumber {before : Search.Waiting α → Search.Waiting α → Bool}
    (agrees : Search.Agrees before) {source target : Nat} (isTarget : numbering source = target)
    {goal other : Option Nat}
    (isOther : (goal.map Int.ofNat).map numbering = other.map Int.ofNat) :
    second.searchBy before target other =
      (first.search source goal).map (Search.State.renumber numbering) := by
  rw [searchBy, Search.startBy_renumber agrees numbering isTarget, ← isOther, renumbering.count]
  exact Search.runBy_renumber agrees numbering renumbering.openArcs_renumber _ _ (.begin source)

theorem search_renumber {source target : Nat} (isTarget : numbering source = target)
    {goal other : Option Nat}
    (isOther : (goal.map Int.ofNat).map numbering = other.map Int.ofNat) :
    second.search target other =
      (first.search source goal).map (Search.State.renumber numbering) := by
  rw [← searchBy_before]
  exact renumbering.searchBy_renumber Search.agrees_before isTarget isOther

theorem distances_renumber_of_lt {start target : Nat} (isTarget : numbering start = target)
    (inside : start < first.network.size) (alsoInside : target < second.network.size)
    (goal other : Option Nat) (isOther : (goal.map Int.ofNat).map numbering = other.map Int.ofNat)
    (goalInside : ∀ index, goal = some index → index < first.network.size)
    (otherInside : ∀ index, other = some index → index < second.network.size) :
    second.distances target (other.map Int.ofNat) =
      (first.distances start (goal.map Int.ofNat)).map (Labels.renumber numbering) := by
  rw [distances_of_lt inside goalInside, distances_of_lt alsoInside otherInside,
    renumbering.search_renumber isTarget isOther]
  cases first.search start goal <;> rfl

theorem distances_renumber (source : Int) (goal : Option Int) :
    second.distances (numbering source) (goal.map numbering) =
      (first.distances source goal).map (Labels.renumber numbering) := by
  rcases renumbering.reference_cases source with
    ⟨start, target, rfl, isTarget, inside, alsoInside⟩ | ⟨same, missing, alsoMissing⟩
  · rw [isTarget]
    cases goal with
    | none =>
      exact renumbering.distances_renumber_of_lt isTarget inside alsoInside none none rfl (by simp)
        (by simp)
    | some goal =>
      rcases renumbering.reference_cases goal with
        ⟨stop, last, rfl, isLast, stopInside, lastInside⟩ | ⟨same, missing, alsoMissing⟩
      · rw [Option.map_some, isLast]
        refine renumbering.distances_renumber_of_lt isTarget inside alsoInside (some stop)
          (some last) (congrArg some isLast) ?_ ?_
        · rintro index ⟨⟩
          exact stopInside
        · rintro index ⟨⟩
          exact lastInside
      · simp only [distances, Network.indexOf_of_lt inside, Network.indexOf_of_lt alsoInside,
          Option.map_some, Option.mapM_some, same, missing, alsoMissing]
        rfl
  · unfold distances
    rw [same, missing, alsoMissing]
    rfl

theorem route_renumber_of_ne {start target stop last : Nat} (isTarget : numbering start = target)
    (isLast : numbering stop = last) (inside : start < first.network.size)
    (alsoInside : target < second.network.size) (stopInside : stop < first.network.size)
    (lastInside : last < second.network.size) (different : start ≠ stop) :
    second.route target last =
      ((first.route start stop).map (List.map numbering)).mapError (Fault.renumber numbering) := by
  have apart : target ≠ last := by
    rintro rfl
    exact different (Int.ofNat_inj.mp (numbering.injective (isTarget.trans isLast.symm)))
  have sameKnown := renumbering.known stop ⟨Int.natCast_nonneg _, Int.ofNat_lt.mpr stopInside⟩
  have isOther : ((some stop).map Int.ofNat).map numbering = (some last).map Int.ofNat :=
    congrArg some isLast
  have fails : FailsWith (Fault.Unnumbered numbering) (first.search start (some stop)) :=
    search_fails start (some stop)
  have unreached : Fault.renumber numbering (.noRoute start stop) =
      (.noRoute target last : Fault α) := by
    rw [Fault.renumber, isTarget, isLast]
    rfl
  rw [isLast] at sameKnown
  rw [route_of_ne inside stopInside different, route_of_ne alsoInside lastInside apart,
    if_congr sameKnown rfl rfl, renumbering.search_renumber isTarget isOther]
  split
  · cases searched : first.search start (some stop) with
    | error fault => exact congrArg Except.error (fails fault searched).symm
    | ok final =>
      have contained : (Labels.renumber numbering final.labels).contains last =
          final.labels.contains stop := by
        rw [← isLast, Labels.contains_renumber]
      have back : (Labels.renumber numbering final.labels).backtrack
          (Labels.renumber numbering final.labels).size last [] =
            (final.labels.backtrack final.labels.size stop []).map numbering := by
        rw [← isLast, Labels.size_renumber]
        exact Labels.backtrack_renumber final.labels final.labels.size stop []
      simp only [Except.map, Except.bind, Search.State.renumber, contained, back]
      split
      · rfl
      · exact congrArg Except.error unreached.symm
  · exact congrArg Except.error unreached.symm

theorem route_renumber (source goal : Int) :
    second.route (numbering source) (numbering goal) =
      ((first.route source goal).map (List.map numbering)).mapError
        (Fault.renumber numbering) := by
  rcases renumbering.reference_cases source with
    ⟨start, target, rfl, isTarget, inside, alsoInside⟩ | ⟨same, missing, alsoMissing⟩
  · rcases renumbering.reference_cases goal with
      ⟨stop, last, rfl, isLast, stopInside, lastInside⟩ | ⟨same, missing, alsoMissing⟩
    · rw [isTarget, isLast]
      by_cases here : start = stop
      · subst here
        have sameTarget : target = last := Int.ofNat_inj.mp (isTarget.symm.trans isLast)
        subst sameTarget
        rw [route_self inside, route_self alsoInside]
        exact congrArg (fun region => Except.ok [region]) isTarget.symm
      · exact renumbering.route_renumber_of_ne isTarget isLast inside alsoInside stopInside
          lastInside here
    · unfold route
      rw [same, missing, alsoMissing, isTarget, Network.indexOf_of_lt inside,
        Network.indexOf_of_lt alsoInside]
      rfl
  · unfold route
    rw [same, missing, alsoMissing]
    rfl

end Renumbering

theorem Renumbering.refl (awareness : Awareness α) :
    Renumbering (Equiv.refl Int) awareness awareness where
  fixed := fun _ _ => rfl
  size := rfl
  count := rfl
  known := fun _ _ => Iff.rfl
  leaving := by
    rintro source target - same
    rw [Int.ofNat_inj.mp same, List.forall₂_same]
    exact fun connection _ => ⟨(congrFun Option.map_id connection.destination).symm, rfl⟩

/-- The number of a region never decides. -/
theorem searchBy_beforeInFull (source : Nat) (goal : Option Nat) :
    awareness.searchBy Search.Waiting.beforeInFull source goal = awareness.search source goal := by
  have same : (goal.map Int.ofNat).map (Equiv.refl Int) = goal.map Int.ofNat :=
    congrFun Option.map_id _
  rw [(Renumbering.refl awareness).searchBy_renumber Search.agrees_beforeInFull rfl same]
  cases awareness.search source goal with
  | error fault => rfl
  | ok final => exact congrArg Except.ok final.renumber_refl

/-! ## Renumbering an awareness -/

/-- The awareness of the same building and the same discoveries under other numbers. -/
def renumber (numbering : Equiv.Perm Int) (awareness : Awareness α) : Awareness α :=
  { awareness with
    network := awareness.network.renumber numbering
    discovered := awareness.discovered.map fun index : Nat => (numbering index).toNat }

theorem renumbering_renumber
    (fixed : ∀ region, ¬ awareness.network.Holds region → numbering region = region) :
    Renumbering numbering awareness (awareness.renumber numbering) where
  fixed := fixed
  size := (List.length_mergeSort _).trans (List.length_map _)
  count := List.length_map _
  known := by
    intro region _
    have sameDiscovered : (awareness.renumber numbering).discovered.map Int.ofNat =
        (awareness.discovered.map Int.ofNat).map numbering := by
      rw [renumber, List.map_map, List.map_map]
      exact List.map_congr_left fun index _ => Network.toNat_numbering fixed index
    unfold Knows
    rw [sameDiscovered, List.mem_map_of_injective numbering.injective]
    rfl
  leaving := by
    intro source target _ isTarget
    have sameSource : ∀ connection : Connection α,
        ((connection.renumber numbering).source == target) = (connection.source == source) := by
      intro connection
      rw [Bool.eq_iff_iff, beq_iff_eq, beq_iff_eq, ← Int.natCast_inj, ← isTarget,
        Connection.renumber, Network.toNat_numbering fixed, numbering.injective.eq_iff,
        Int.natCast_inj]
    have kept : (awareness.renumber numbering).network.leaving target =
        (awareness.network.leaving source).map (Connection.renumber numbering) := by
      refine List.filter_map.trans (congrArg _ (List.filter_congr fun connection _ => ?_))
      exact sameSource connection
    rw [kept, List.forall₂_map_right_iff, List.forall₂_same]
    exact fun connection _ => ⟨rfl, rfl⟩

/-! ## Searches and routes -/

/-- Least costs, predecessors and routes under other numbers of the regions are the renumbered
ones, and a missing route is missing between the renumbered regions.  The numbers themselves never
decide. -/
theorem routes_renumbered (renumbering : Renumbering numbering first second) :
    (∀ source goal, second.distances (numbering source) (goal.map numbering) =
      (first.distances source goal).map (Labels.renumber numbering)) ∧
    (∀ source goal, second.route (numbering source) (numbering goal) =
      ((first.route source goal).map (List.map numbering)).mapError
        (Fault.renumber numbering)) ∧
    ∀ source goal, second.searchBy Search.Waiting.beforeInFull source goal =
      second.search source goal :=
  ⟨renumbering.distances_renumber, renumbering.route_renumber, searchBy_beforeInFull⟩

/-- With the two middle rooms of the fork exchanged, the way through the upper room is still the one
that is taken, although it costs as much as the other one and has the larger number now. -/
theorem routes_renumbered_in_fork :
    Renumbering (Equiv.swap 1 2) (inFork ∅) ((inFork ∅).renumber (Equiv.swap 1 2)) ∧
    (inFork ∅).route 0 3 = .ok [0, 1, 3] ∧
    ((inFork ∅).renumber (Equiv.swap 1 2)).route 0 3 = .ok [0, 2, 3] ∧
    ∃ labels, (inFork ∅).distances 0 none = .ok labels ∧
      ((inFork ∅).renumber (Equiv.swap 1 2)).distances 0 none =
        .ok (Labels.renumber (Equiv.swap 1 2) labels) := by
  have fixed : ∀ region, ¬ (inFork ∅).network.Holds region → Equiv.swap 1 2 region = region := by
    intro region outside
    have isFour : (inFork ∅).network.size = 4 := by decide +kernel
    rw [Network.Holds, isFour] at outside
    exact Equiv.swap_apply_of_ne_of_ne (by omega) (by omega)
  have renumbering := renumbering_renumber fixed
  rcases routes_renumbered renumbering with ⟨distances, routes, -⟩
  have view : ((inFork ∅).route 0 3).toOption.map id = some [0, 1, 3] := by decide +kernel
  have labelled : ((inFork ∅).distances 0 none).isOk = true := by decide +kernel
  rcases exists_of_view view with ⟨route, found, rfl⟩
  have labels := eq_ok_of_isOk labelled ∅
  have renumbered := routes 0 3
  have relabelled := distances 0 none
  rw [found] at renumbered
  rw [labels] at relabelled
  exact ⟨renumbering, found, renumbered, _, labels, relabelled⟩

end Awareness

end Egress
