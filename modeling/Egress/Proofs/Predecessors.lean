import Egress.Proofs.Distances
import Egress.Proofs.Search.Ties
import Egress.Proofs.Table

/-!
# Predecessors

Least costs do not say from where a region is reached, nor in which order regions of one cost are
settled.  Where all weights are positive, a search without a goal settles regions in ascending order
of cost.  Each label is from the first settled region that has a known connection which comes to
exactly the cost of the label.  Of two regions with one cost the first settled is the one whose
predecessor was settled first, and of two with one predecessor the one to which the predecessor
listed such a connection first.

So the labels are determined completely, and by nothing but the connections, their order and their
weights.
-/

namespace Egress

section Order

variable {β γ : Type} [BEq γ] [LawfulBEq γ] {image : β → Option γ} {key : β → Nat} {items : List β}
  {first second : β} {left right : γ}

/-- An image comes before another one if some entry has it before any entry has the other. -/
theorem idxOf_filterMap_lt (ordered : items.Pairwise fun one two => key one < key two)
    (isFirst : first ∈ items) (isLeft : image first = some left)
    (leastLeft : ∀ item ∈ items, image item = some left → key first ≤ key item)
    (allRight : ∀ item ∈ items, image item = some right → key first < key item)
    (different : left ≠ right) :
    (items.filterMap image).idxOf left < (items.filterMap image).idxOf right := by
  rcases List.append_of_mem isFirst with ⟨front, back, rfl⟩
  have earlier : ∀ item ∈ front, key item < key first := fun item member =>
    (List.pairwise_append.mp ordered).2.2 item member first List.mem_cons_self
  have noLeft : left ∉ front.filterMap image := by
    intro member
    rcases List.mem_filterMap.mp member with ⟨item, isItem, same⟩
    exact absurd (leastLeft item (List.mem_append_left _ isItem) same)
      (Nat.not_le.mpr (earlier item isItem))
  have noRight : right ∉ front.filterMap image := by
    intro member
    rcases List.mem_filterMap.mp member with ⟨item, isItem, same⟩
    exact absurd (allRight item (List.mem_append_left _ isItem) same)
      (Nat.lt_asymm (earlier item isItem))
  rw [List.filterMap_append, List.filterMap_cons_some isLeft, List.idxOf_append_of_notMem noLeft,
    List.idxOf_append_of_notMem noRight, List.idxOf_cons_self, List.idxOf_cons_ne _ different]
  omega

/-- Where a list is ordered by a key, the images of its entries come first in the order of the
entries that have them first. -/
theorem idxOf_filterMap_lt_iff (ordered : items.Pairwise fun one two => key one < key two)
    (isFirst : first ∈ items) (isLeft : image first = some left)
    (leastLeft : ∀ item ∈ items, image item = some left → key first ≤ key item)
    (isSecond : second ∈ items) (isRight : image second = some right)
    (leastRight : ∀ item ∈ items, image item = some right → key second ≤ key item)
    (different : left ≠ right) :
    (items.filterMap image).idxOf left < (items.filterMap image).idxOf right ↔
      key first < key second := by
  constructor
  · intro sooner
    by_contra later
    have distinct : (items.map key).Nodup := (List.pairwise_map.mpr ordered).imp Nat.ne_of_lt
    have apart : key first ≠ key second := by
      intro same
      have one := List.inj_on_of_nodup_map distinct isFirst isSecond same
      exact different (Option.some.inj (isLeft.symm.trans (one ▸ isRight)))
    have less : key second < key first := by omega
    exact Nat.lt_asymm sooner (idxOf_filterMap_lt ordered isSecond isRight leastRight
      (fun item member has => Nat.lt_of_lt_of_le less (leastLeft item member has)) different.symm)
  · intro less
    exact idxOf_filterMap_lt ordered isFirst isLeft leastLeft
      (fun item member has => Nat.lt_of_lt_of_le less (leastRight item member has)) different

end Order

/-- Connections are listed in ascending order. -/
theorem Network.WellFormed.pairwise_index {α : Type} {network : Network α}
    (formed : network.WellFormed) :
    network.connections.Pairwise fun first second => first.index < second.index := by
  have ascending : (network.connections.map Connection.index).Pairwise (· < ·) := by
    rw [formed.indices_eq_range]
    exact List.pairwise_lt_range
  exact List.pairwise_map.mp ascending

namespace Awareness

open Search (rank Tight LedBy Traced)

variable {awareness : Awareness Rat} {start : Nat} {labels : Labels Rat}
  {connection : Connection Rat} {source region : Int} {weight : Rat}

/-- A known connection leads to a region at exactly the cost of its label. -/
structure Attains (awareness : Awareness Rat) (labels : Labels Rat) (connection : Connection Rat)
    (region : Int) : Prop where
  member : connection ∈ awareness.network.connections
  known : awareness.Knows connection.source
  target : connection.destination = some region
  sum : ∃ here there weight, labels.find? connection.source = some here ∧
    labels.find? region = some there ∧ awareness.weight connection.index = .ok weight ∧
    here.cost + weight = there.cost

/-- The first connection from one region to another that attains its cost. -/
def FirstAttains (awareness : Awareness Rat) (labels : Labels Rat) (source : Int)
    (connection : Connection Rat) (region : Int) : Prop :=
  awareness.Attains labels connection region ∧ connection.source = source ∧
    ∀ other, awareness.Attains labels other region → other.source = source →
      connection.index ≤ other.index

theorem Attains.tight (attains : awareness.Attains labels connection region) :
    ∃ weight, awareness.arc? connection = some (region, weight) ∧
      Tight awareness.arcsFrom labels connection.source region weight := by
  rcases attains.sum with ⟨here, there, weight, isHere, isThere, isWeight, sum⟩
  exact ⟨weight, arc?_eq_some_iff.mpr ⟨attains.target, isWeight⟩,
    mem_arcsFrom.mpr ⟨attains.known, connection, attains.member, rfl, attains.target, isWeight⟩,
    here, there, isHere, isThere, sum.symm⟩

theorem attains_of_tight (tight : Tight awareness.arcsFrom labels source region weight)
    (isKnown : awareness.Knows source) (member : connection ∈ awareness.network.connections)
    (isSource : connection.source = source)
    (isArc : awareness.arc? connection = some (region, weight)) :
    awareness.Attains labels connection region := by
  rcases tight with ⟨-, here, there, isHere, isThere, sum⟩
  rcases arc?_eq_some_iff.mp isArc with ⟨isTarget, isWeight⟩
  exact ⟨member, isSource ▸ isKnown, isTarget, here, there, weight, isSource ▸ isHere, isThere,
    isWeight, sum.symm⟩

/-- What is reached from a region is reached first by one of its connections. -/
theorem exists_firstAttains (tight : Tight awareness.arcsFrom labels source region weight) :
    ∃ connection, awareness.FirstAttains labels source connection region := by
  classical
  have some : ∃ index connection, awareness.Attains labels connection region ∧
      (connection.source : Int) = source ∧ connection.index = index := by
    rcases mem_arcsFrom.mp tight.1 with ⟨isKnown, connection, member, isSource, isTarget, isWeight⟩
    exact ⟨connection.index, connection, attains_of_tight tight isKnown member isSource
      (arc?_eq_some_iff.mpr ⟨isTarget, isWeight⟩), isSource, rfl⟩
  rcases Nat.find_spec some with ⟨connection, attains, isSource, isIndex⟩
  refine ⟨connection, attains, isSource, fun other also alsoSource => ?_⟩
  rw [isIndex]
  exact Nat.find_min' some ⟨other, also, alsoSource, rfl⟩

/-- From one region two others are reached in the order of the connections that attain their
costs first. -/
theorem idxOf_arcsFrom_lt_iff (formed : awareness.network.WellFormed)
    {first second : Int} {weight added : Rat} {toFirst toSecond : Connection Rat}
    (different : first ≠ second) (tight : Tight awareness.arcsFrom labels source first weight)
    (also : Tight awareness.arcsFrom labels source second added)
    (attains : awareness.FirstAttains labels source toFirst first)
    (alsoAttains : awareness.FirstAttains labels source toSecond second) :
    (awareness.arcsFrom source).idxOf (first, weight) <
        (awareness.arcsFrom source).idxOf (second, added) ↔
      toFirst.index < toSecond.index := by
  have listed : ∀ {region weight connection}, Tight awareness.arcsFrom labels source region weight →
      awareness.FirstAttains labels source connection region →
      connection ∈ awareness.network.connections.filter (fun connection =>
        (connection.source : Int) == source) ∧
      awareness.arc? connection = some (region, weight) ∧
      ∀ other ∈ awareness.network.connections.filter (fun connection =>
        (connection.source : Int) == source), awareness.arc? other = some (region, weight) →
          connection.index ≤ other.index := by
    rintro region weight connection tight ⟨attains, isSource, least⟩
    refine ⟨List.mem_filter.mpr ⟨attains.member, beq_iff_eq.mpr isSource⟩, ?_, ?_⟩
    · rcases attains.tight with ⟨other, isArc, alsoTight⟩
      rwa [tight.weight_unique (isSource ▸ alsoTight)]
    · intro other member isArc
      rcases List.mem_filter.mp member with ⟨isMember, same⟩
      exact least other (attains_of_tight tight (isSource ▸ attains.known) isMember
        (beq_iff_eq.mp same) isArc) (beq_iff_eq.mp same)
  rcases listed tight attains with ⟨isFirst, isLeft, leastLeft⟩
  rcases listed also alsoAttains with ⟨isSecond, isRight, leastRight⟩
  have isKnown : awareness.Knows source := (mem_arcsFrom.mp tight.1).1
  rw [arcsFrom, if_pos isKnown]
  exact idxOf_filterMap_lt_iff (formed.pairwise_index.filter _) isFirst isLeft leastLeft isSecond
    isRight leastRight fun same => different (congrArg Prod.fst same)

/-- What a search to the end leaves: least costs, and labels that tell in which order all regions
were settled. -/
structure Exhausted (awareness : Awareness Rat) (start : Nat) (final : Search.State Rat) :
    Prop where
  outcome : Search.Outcome awareness.arcsFrom awareness.Weights awareness.network.Holds start none
    final
  traced : Traced awareness.arcsFrom final
  settled : ∀ region label, final.labels.find? region = some label → region ∈ final.settled

theorem Weighed.search_exhausts (weighed : awareness.Weighed)
    (positive : ∀ weight, awareness.Weights weight → 0 < weight)
    (inside : start < awareness.network.size) :
    ∃ final, awareness.search start none = .ok final ∧ awareness.Exhausted start final := by
  have laws : LawfulCosts awareness.Weights :=
    .of_rat fun weight isWeight => le_of_lt (positive weight isWeight)
  rcases weighed.search_opens inside with ⟨domain, isDomain, closed, opened, isStart, enough⟩
  rcases Search.run_traced laws weights_of_mem_arcsFrom positive closed opened isStart enough with
    ⟨final, ended, orderly, traced, empty⟩
  refine ⟨final, ended, ⟨isDomain ▸ orderly.rooted, orderly.least.toSummed, fun region _ => ?_⟩,
    traced, fun region label found => orderly.rooted.settled_of_label empty found⟩
  exact Search.isLeast_of_empty laws weights_of_mem_arcsFrom orderly.rooted orderly.least empty
    region

/-- A label is from the first settled region from which a connection attains the cost. -/
theorem Exhausted.rank_le {final : Search.State Rat} (exhausted : awareness.Exhausted start final)
    (led : LedBy awareness.arcsFrom final.labels source region weight)
    (attains : awareness.Attains final.labels connection region) :
    rank final.settled source ≤ rank final.settled connection.source := by
  rcases attains.tight with ⟨added, -, tight⟩
  rcases tight.2 with ⟨here, -, isHere, -⟩
  exact exhausted.traced.earliest _ region weight led _ (exhausted.settled _ here isHere) added
    tight

/-- A search without a goal settles all that walks reach from where it starts, in ascending order of
cost.  Each region but the first has its label from the first settled region from which a connection
attains its cost.  Of two regions with one cost the first settled is the one whose predecessor was
settled first or, with one predecessor, the one to which the first connection that attains the cost
comes first. -/
theorem distances_traced (weighed : awareness.Weighed)
    (positive : ∀ weight, awareness.Weights weight → 0 < weight)
    (inside : start < awareness.network.size) :
    ∃ final, awareness.search start none = .ok final ∧
      awareness.distances start none = .ok final.labels ∧ final.settled.Nodup ∧
      (∀ region, region ∈ final.settled ↔ region ∈ final.labels.keys) ∧
      final.labels.find? start = some ⟨Scalar.zero, none⟩ ∧
      (∀ region, region ∈ final.labels.keys ↔
        ∃ walk, awareness.network.Walk awareness.Knows start walk region) ∧
      (∀ first second label other, final.labels.find? first = some label →
        final.labels.find? second = some other →
        rank final.settled first < rank final.settled second → label.cost ≤ other.cost) ∧
      (∀ region label, final.labels.find? region = some label → region ≠ start →
        ∃ previous, label.previous = some previous ∧
          (∃ connection, awareness.FirstAttains final.labels previous connection region) ∧
          ∀ other, awareness.Attains final.labels other region →
            rank final.settled previous ≤ rank final.settled other.source) ∧
      ∀ first second label other, final.labels.find? first = some label →
        final.labels.find? second = some other → first ≠ start → second ≠ start →
        first ≠ second → label.cost = other.cost →
        ∃ toFirst toSecond previous before, label.previous = some previous ∧
          other.previous = some before ∧
          awareness.FirstAttains final.labels previous toFirst first ∧
          awareness.FirstAttains final.labels before toSecond second ∧
          (rank final.settled first < rank final.settled second ↔
            rank final.settled previous < rank final.settled before ∨
              previous = before ∧ toFirst.index < toSecond.index) := by
  rcases weighed.search_exhausts positive inside with ⟨final, searched, exhausted⟩
  have rooted := exhausted.outcome.rooted
  have summed := exhausted.outcome.summed
  refine ⟨final, searched, distances_of_search inside (by simp) searched, rooted.distinct, ?_,
    rooted.origin, weighed.mem_keys_iff exhausted.outcome, ?_, ?_, ?_⟩
  · intro region
    rw [Table.mem_keys_iff]
    exact ⟨rooted.settled_labelled region,
      fun ⟨label, found⟩ => exhausted.settled region label found⟩
  · intro first second label other isLabel isOther sooner
    exact (exhausted.traced.inOrder first (exhausted.settled first label isLabel) second label other
      isLabel isOther sooner).1
  · intro region label found different
    rcases summed.exists_ledBy found different with ⟨previous, weight, isPrevious, led⟩
    exact ⟨previous, isPrevious, exists_firstAttains led.1,
      fun other attains => exhausted.rank_le led attains⟩
  · intro first second label other isLabel isOther notStart alsoNot different level
    rcases summed.exists_ledBy isLabel notStart with ⟨previous, weight, isPrevious, led⟩
    rcases summed.exists_ledBy isOther alsoNot with ⟨before, added, isBefore, also⟩
    rcases exists_firstAttains led.1 with ⟨toFirst, attains⟩
    rcases exists_firstAttains also.1 with ⟨toSecond, alsoAttains⟩
    refine ⟨toFirst, toSecond, previous, before, isPrevious, isBefore, attains, alsoAttains, ?_⟩
    rw [exhausted.traced.rank_lt_iff (exhausted.settled first label isLabel)
      (exhausted.settled second other isOther) isLabel isOther level different led also]
    refine or_congr_right (and_congr_right ?_)
    rintro rfl
    exact idxOf_arcsFrom_lt_iff weighed.formed different led.1 also.1 attains alsoAttains

/-- In the fork the upper room and the lower one cost the same, and so do the two ways to the last
room. -/
theorem distances_traced_in_fork :
    (inFork ∅).Weighed ∧ (∀ weight, (inFork ∅).Weights weight → 0 < weight) ∧
    0 < (inFork ∅).network.size ∧ ∃ final, (inFork ∅).search 0 none = .ok final ∧
      (inFork ∅).distances 0 none = .ok final.labels ∧ final.settled.Nodup ∧
      (∀ region, region ∈ final.settled ↔ region ∈ final.labels.keys) ∧
      final.labels.find? 0 = some ⟨Scalar.zero, none⟩ ∧
      (∀ region, region ∈ final.labels.keys ↔
        ∃ walk, (inFork ∅).network.Walk (inFork ∅).Knows 0 walk region) ∧
      (∀ first second label other, final.labels.find? first = some label →
        final.labels.find? second = some other →
        rank final.settled first < rank final.settled second → label.cost ≤ other.cost) ∧
      (∀ region label, final.labels.find? region = some label → region ≠ 0 →
        ∃ previous, label.previous = some previous ∧
          (∃ connection, (inFork ∅).FirstAttains final.labels previous connection region) ∧
          ∀ other, (inFork ∅).Attains final.labels other region →
            rank final.settled previous ≤ rank final.settled other.source) ∧
      ∀ first second label other, final.labels.find? first = some label →
        final.labels.find? second = some other → first ≠ 0 → second ≠ 0 →
        first ≠ second → label.cost = other.cost →
        ∃ toFirst toSecond previous before, label.previous = some previous ∧
          other.previous = some before ∧
          (inFork ∅).FirstAttains final.labels previous toFirst first ∧
          (inFork ∅).FirstAttains final.labels before toSecond second ∧
          (rank final.settled first < rank final.settled second ↔
            rank final.settled previous < rank final.settled before ∨
              previous = before ∧ toFirst.index < toSecond.index) := by
  have sound := inFork_sound ∅
  have inside : 0 < (inFork ∅).network.size := by decide +kernel
  exact ⟨sound.weighed, sound.weights_pos, inside,
    distances_traced sound.weighed sound.weights_pos inside⟩

end Awareness

end Egress
