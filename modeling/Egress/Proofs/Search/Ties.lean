import Mathlib.Tactic.Linarith
import Egress.Proofs.Search.Arrival
import Egress.Proofs.Search.Outcome

/-!
# Ties

Where all weights are positive, the order of arrival decides every tie.  A label is replaced only by
a smaller one, so it stays with the first settled region from which its cost is reached.  Of two
regions with one cost the one that was labelled first waits in front, and regions are labelled as
the connections are followed: region by region in the order of settling, and in order from each.

So the order in which regions are settled can be told from the labels alone, regions with one cost
included.  Each turn keeps this for the settled regions and for the waiting ones, and while the
connections of one region are being followed, for the part of them that has been.
-/

namespace Egress.Search

/-! ## The order of settling -/

/-- How many regions were settled before a region. -/
def rank (settled : List Int) (region : Int) : Nat := settled.reverse.idxOf region

section Rank

variable {settled : List Int} {latest region other : Int}

theorem rank_cons_of_mem (member : region ∈ settled) :
    rank (latest :: settled) region = rank settled region := by
  unfold rank
  rw [List.reverse_cons, List.idxOf_append_of_mem (List.mem_reverse.mpr member)]

theorem rank_of_not_mem (absent : region ∉ settled) : rank settled region = settled.length := by
  unfold rank
  rw [List.idxOf_of_notMem fun member => absent (List.mem_reverse.mp member), List.length_reverse]

theorem rank_cons_self (fresh : latest ∉ settled) :
    rank (latest :: settled) latest = settled.length := by
  unfold rank
  rw [List.reverse_cons,
    List.idxOf_append_of_notMem fun member => fresh (List.mem_reverse.mp member),
    List.idxOf_cons_self, List.length_reverse, Nat.add_zero]

theorem rank_lt_length (member : region ∈ settled) : rank settled region < settled.length := by
  unfold rank
  rw [← List.length_reverse]
  exact List.idxOf_lt_length_of_mem (List.mem_reverse.mpr member)

theorem eq_of_rank_eq (member : region ∈ settled)
    (same : rank settled region = rank settled other) : region = other :=
  (List.idxOf_inj (List.mem_reverse.mpr member)).mp same

end Rank

/-! ## Labels and arcs -/

variable {next : Int → List (Int × Rat)} {weights : Rat → Prop} {start : Int}
  {labels : Labels Rat} {source region target : Int} {weight : Rat}

/-- The arc to a region comes to exactly the cost of the region. -/
def Tight (next : Int → List (Int × Rat)) (labels : Labels Rat) (source region : Int)
    (weight : Rat) : Prop :=
  (region, weight) ∈ next source ∧ ∃ here there, labels.find? source = some here ∧
    labels.find? region = some there ∧ there.cost = here.cost + weight

/-- The region has its label from the arc. -/
def LedBy (next : Int → List (Int × Rat)) (labels : Labels Rat) (previous region : Int)
    (weight : Rat) : Prop :=
  Tight next labels previous region weight ∧
    ∃ label, labels.find? region = some label ∧ label.previous = some previous

/-- The arc that labelled the first region was followed before the one that labelled the second. -/
def Precedes (next : Int → List (Int × Rat)) (settled : List Int) (labels : Labels Rat)
    (first second : Int) : Prop :=
  ∀ previous weight other added, LedBy next labels previous first weight →
    LedBy next labels other second added →
      rank settled previous < rank settled other ∨ previous = other ∧
        (next previous).idxOf (first, weight) < (next other).idxOf (second, added)

/-- The entry is waiting at the present cost of its region. -/
def Current (labels : Labels Rat) (entry : Waiting Rat) : Prop :=
  ∃ label, labels.find? entry.region = some label ∧ entry.cost = label.cost

/-- The weight of a tight arc is what the costs leave for it. -/
theorem Tight.weight_eq (tight : Tight next labels source region weight) {here there : Label Rat}
    (isHere : labels.find? source = some here) (isThere : labels.find? region = some there) :
    there.cost = here.cost + weight := by
  rcases tight with ⟨-, before, after, isBefore, isAfter, sum⟩
  cases isHere.symm.trans isBefore
  cases isThere.symm.trans isAfter
  exact sum

theorem Tight.weight_unique {added : Rat} (tight : Tight next labels source region weight)
    (also : Tight next labels source region added) : weight = added := by
  rcases tight with ⟨-, here, there, isHere, isThere, sum⟩
  exact add_left_cancel (sum.symm.trans (also.weight_eq isHere isThere))

/-- Every label but that of the start comes from an arc. -/
theorem Summed.exists_ledBy (summed : Summed next weights start labels) {label : Label Rat}
    (found : labels.find? region = some label) (different : region ≠ start) :
    ∃ previous weight, label.previous = some previous ∧
      LedBy next labels previous region weight := by
  rcases summed.added region label found different with
    ⟨previous, before, weight, isPrevious, isBefore, isArc, sum⟩
  exact ⟨previous, weight, isPrevious, ⟨isArc, before, label, isBefore, found, sum⟩, label, found,
    isPrevious⟩

variable {domain : Int → Prop} {state : State Rat} {entry : Waiting Rat}
  {rest : Array (Waiting Rat)}

theorem LedBy.settled (rooted : Rooted next domain start state)
    (led : LedBy next state.labels source region weight) : source ∈ state.settled := by
  rcases led with ⟨-, label, found, isPrevious⟩
  exact rooted.settled_of_previous found isPrevious

/-! ## What every turn keeps -/

/-- The order of settling can be told from the labels, and so can the order of waiting. -/
structure Traced (next : Int → List (Int × Rat)) (state : State Rat) : Prop where
  /-- A label is from the first settled region from which its cost is reached. -/
  earliest : ∀ previous region weight, LedBy next state.labels previous region weight →
    ∀ other ∈ state.settled, ∀ added, Tight next state.labels other region added →
      rank state.settled previous ≤ rank state.settled other
  /-- Regions wait in the order in which they were labelled. -/
  queued : ∀ first ∈ state.queue, ∀ second ∈ state.queue, first.order < second.order →
    first.region ≠ second.region → Current state.labels first → Current state.labels second →
      Precedes next state.settled state.labels first.region second.region
  /-- Regions are settled in the order of their costs, and of their labels at one cost. -/
  inOrder : ∀ first ∈ state.settled, ∀ second label other,
    state.labels.find? first = some label → state.labels.find? second = some other →
      rank state.settled first < rank state.settled second → label.cost ≤ other.cost ∧
        (label.cost = other.cost → Precedes next state.settled state.labels first second)

/-- What has been settled later makes no difference to labels from regions settled before. -/
theorem Precedes.settle (rooted : Rooted next domain start state) {latest first second : Int}
    (precedes : Precedes next state.settled state.labels first second) :
    Precedes next (latest :: state.settled) state.labels first second := by
  intro previous weight other added led also
  rw [rank_cons_of_mem (led.settled rooted), rank_cons_of_mem (also.settled rooted)]
  exact precedes previous weight other added led also

namespace Traced

theorem begin (source : Nat) : Traced next (Search.start (α := Rat) source) where
  earliest := fun _ _ _ _ other settled => absurd settled List.not_mem_nil
  queued := by
    have only : ∀ entry ∈ (Search.start (α := Rat) source).queue, entry.region = source := by
      intro entry member
      rcases Heap.mem_push.mp member with old | rfl
      · exact absurd old (Array.not_mem_empty _)
      · rfl
    intro first isFirst second isSecond _ different
    exact absurd ((only first isFirst).trans (only second isSecond).symm) different
  inOrder := fun first settled => absurd settled List.not_mem_nil

/-- Taking a region out of the queue leaves the order of the others. -/
theorem pop (traced : Traced next state)
    (popped : Heap.pop? Waiting.before state.queue = some (entry, rest)) :
    Traced next { state with queue := rest } where
  earliest := traced.earliest
  queued := fun first isFirst second isSecond =>
    traced.queued first ((Heap.mem_of_pop? popped first).mpr (Or.inl isFirst)) second
      ((Heap.mem_of_pop? popped second).mpr (Or.inl isSecond))
  inOrder := traced.inOrder

/-- The region whose turn it is comes before all that wait. -/
theorem popped_before (laws : LawfulCosts weights) (rooted : Rooted next domain start state)
    (least : Least next weights start state.settled state) (counted : Counted state)
    (traced : Traced next state)
    (popped : Heap.pop? Waiting.before state.queue = some (entry, rest))
    (first : entry.region ∉ state.settled) {present other : Label Rat}
    (isPresent : state.labels.find? entry.region = some present)
    (isOther : state.labels.find? region = some other) (waits : region ∉ state.settled)
    (different : entry.region ≠ region) : present.cost ≤ other.cost ∧
      (present.cost = other.cost →
        Precedes next state.settled state.labels entry.region region) := by
  have isEntry := (Heap.mem_of_pop? popped entry).mpr (Or.inr rfl)
  have isCost := least.popped_cost laws rooted popped first isPresent
  rcases rooted.waits region other isOther with settled | ⟨waiting, isWaiting, rfl, otherCost⟩
  · exact absurd settled waits
  · have behind := Heap.pop?_first (Waiting.precedence laws) least.fits least.inOrder popped
      waiting isWaiting
    have ahead := (Waiting.before_eq_false_iff laws (least.fits entry isEntry)
      (least.fits waiting isWaiting)).mp behind
    refine ⟨isCost ▸ otherCost ▸ ahead.1, fun level => ?_⟩
    have notAfter : entry.order ≤ waiting.order :=
      ahead.2 (le_of_eq (otherCost.trans (level.symm.trans isCost)))
    have apart : entry.order ≠ waiting.order := fun same =>
      different (congrArg Waiting.region (counted.unique entry isEntry waiting isWaiting same))
    exact traced.queued entry isEntry waiting isWaiting (Nat.lt_of_le_of_ne notAfter apart)
      different ⟨present, isPresent, isCost.symm⟩ ⟨other, isOther, otherCost⟩

/-- Settling a region keeps the order. -/
theorem settle (laws : LawfulCosts weights) (rooted : Rooted next domain start state)
    (least : Least next weights start state.settled state) (counted : Counted state)
    (traced : Traced next state)
    (popped : Heap.pop? Waiting.before state.queue = some (entry, rest))
    (first : entry.region ∉ state.settled) : Traced next (Search.settle state entry rest) where
  earliest := by
    intro previous region weight led other settled added tight
    have before := led.settled rooted
    change rank (entry.region :: state.settled) previous ≤
      rank (entry.region :: state.settled) other
    rw [rank_cons_of_mem before]
    rcases List.mem_cons.mp settled with rfl | earlier
    · rw [rank_cons_self first]
      exact le_of_lt (rank_lt_length before)
    · rw [rank_cons_of_mem earlier]
      exact traced.earliest previous region weight led other earlier added tight
  queued := fun one isOne two isTwo smaller different current also =>
    ((traced.pop popped).queued one isOne two isTwo smaller different current also).settle rooted
  inOrder := by
    intro one settled two label other isLabel isOther sooner
    change rank (entry.region :: state.settled) one < rank (entry.region :: state.settled) two
      at sooner
    rcases List.mem_cons.mp settled with rfl | earlier
    · rw [rank_cons_self first] at sooner
      have waits : two ∉ state.settled := by
        intro done
        rw [rank_cons_of_mem done] at sooner
        exact absurd (rank_lt_length done) (Nat.lt_asymm sooner)
      have different : entry.region ≠ two := by
        rintro rfl
        rw [rank_cons_self first] at sooner
        exact Nat.lt_irrefl _ sooner
      rcases traced.popped_before laws rooted least counted popped first isLabel isOther waits
        different with ⟨lower, level⟩
      exact ⟨lower, fun same => (level same).settle rooted⟩
    · have before : rank state.settled one < rank state.settled two := by
        rw [rank_cons_of_mem earlier] at sooner
        by_cases done : two ∈ state.settled
        · rwa [rank_cons_of_mem done] at sooner
        · rw [rank_of_not_mem done]
          exact rank_lt_length earlier
      rcases traced.inOrder one earlier two label other isLabel isOther before with ⟨lower, level⟩
      exact ⟨lower, fun same => (level same).settle rooted⟩

end Traced

/-! ## Following the connections of one region -/

/-- In an ordered list, what has been kept of a list up to an entry stands before the entry. -/
theorem idxOf_lt_of_filter {β : Type} [BEq β] [LawfulBEq β] {kept : β → Bool}
    {items done todo : List β} {item other : β} (split : items.filter kept = done ++ item :: todo)
    (isDone : other ∈ done) (fresh : item ∉ done) : items.idxOf other < items.idxOf item := by
  have isKept : kept item = true := (List.mem_filter.mp (split ▸ List.mem_append_right done
    List.mem_cons_self)).2
  rcases List.filter_eq_append_iff.mp split with ⟨front, back, rfl, rfl, -⟩
  have earlier : other ∈ front := (List.mem_filter.mp isDone).1
  have later : item ∉ front := fun member => fresh (List.mem_filter.mpr ⟨member, isKept⟩)
  rw [List.idxOf_append_of_mem earlier, List.idxOf_append_of_notMem later]
  exact Nat.lt_add_right _ (List.idxOf_lt_length_of_mem earlier)

/-- What holds while the connections of the region settled last are being followed, some of which
have been. -/
structure Midturn (next : Int → List (Int × Rat)) (weights : Rat → Prop) (domain : Int → Prop)
    (start source : Int) (followed : List Int) (present : Label Rat) (done : List (Int × Rat))
    (state : State Rat) : Prop where
  rooted : Rooted next domain start state
  least : Least next weights start followed state
  counted : Counted state
  traced : Traced next state
  settled : state.settled = source :: followed
  found : state.labels.find? source = some present
  largest : ∀ region ∈ state.settled, ∀ label, state.labels.find? region = some label →
    label.cost ≤ present.cost
  /-- Labels from the region come from connections that have been followed. -/
  met : ∀ region label, state.labels.find? region = some label → label.previous = some source →
    ∃ arc ∈ done, arc.1 = region ∧ label.cost = present.cost + arc.2
  reached : ∀ arc ∈ done, ∃ label, state.labels.find? arc.1 = some label ∧
    label.cost ≤ present.cost + arc.2

namespace Midturn

variable {followed : List Int} {present : Label Rat} {done : List (Int × Rat)}

section Relabel

variable (midturn : Midturn next weights domain start source followed present done state)
  (ahead : target ∉ state.settled)

include ahead

/-- A new label for a region that is not settled leaves the tight arcs to others alone. -/
theorem tight_of_relabel {label : Label Rat} {other : Int} (settled : other ∈ state.settled)
    (different : target ≠ region)
    (tight : Tight next (relabel state target label).labels other region weight) :
    Tight next state.labels other region weight := by
  rcases tight with ⟨isArc, here, there, isHere, isThere, sum⟩
  rw [relabel_find?_of_settled label ahead settled] at isHere
  rw [relabel_find?, if_neg different] at isThere
  exact ⟨isArc, here, there, isHere, isThere, sum⟩

include midturn

/-- Labels other than the new one come from the same arcs as before. -/
theorem ledBy_of_relabel {label : Label Rat} {previous : Int} (different : target ≠ region)
    (led : LedBy next (relabel state target label).labels previous region weight) :
    LedBy next state.labels previous region weight := by
  rcases led with ⟨tight, there, isThere, isPrevious⟩
  rw [relabel_find?, if_neg different] at isThere
  have settled := midturn.rooted.settled_of_previous isThere isPrevious
  exact ⟨tight_of_relabel ahead settled different tight, there, isThere, isPrevious⟩

/-- No settled region costs as much as the region labelled anew. -/
theorem inOrder_relabel (positive : 0 < weight) :
    ∀ first ∈ state.settled, ∀ second label other,
      (relabel state target ⟨present.cost + weight, some source⟩).labels.find? first =
        some label →
      (relabel state target ⟨present.cost + weight, some source⟩).labels.find? second =
        some other →
      rank state.settled first < rank state.settled second → label.cost ≤ other.cost ∧
        (label.cost = other.cost → Precedes next state.settled
          (relabel state target ⟨present.cost + weight, some source⟩).labels first second) := by
  intro first settled second label other isLabel isOther sooner
  rw [relabel_find?_of_settled _ ahead settled] at isLabel
  rw [relabel_find?] at isOther
  split at isOther
  · cases isOther
    have more : label.cost < present.cost + weight :=
      lt_of_le_of_lt (midturn.largest first settled label isLabel) (lt_add_of_pos_right _ positive)
    exact ⟨le_of_lt more, fun level => absurd level (ne_of_lt more)⟩
  · rename_i notSecond
    have notFirst : target ≠ first := by
      rintro rfl
      exact ahead settled
    rcases midturn.traced.inOrder first settled second label other isLabel isOther sooner with
      ⟨lower, level⟩
    refine ⟨lower, fun same previous added last further led also => ?_⟩
    exact level same previous added last further (midturn.ledBy_of_relabel ahead notFirst led)
      (midturn.ledBy_of_relabel ahead notSecond also)

variable (smaller : ∀ label, state.labels.find? target = some label →
  present.cost + weight < label.cost)

include smaller

/-- From no region settled before is the new cost reached. -/
theorem earliest_relabel :
    ∀ previous region added, LedBy next
        (relabel state target ⟨present.cost + weight, some source⟩).labels previous region added →
      ∀ other ∈ state.settled, ∀ further, Tight next
        (relabel state target ⟨present.cost + weight, some source⟩).labels other region further →
        rank state.settled previous ≤ rank state.settled other := by
  intro previous region added led other settled further tight
  by_cases same : target = region
  · subst same
    rcases led with ⟨-, label, isLabel, isPrevious⟩
    rw [relabel_find?, if_pos rfl] at isLabel
    cases isLabel
    cases isPrevious
    rcases tight with ⟨isArc, here, there, isHere, isThere, sum⟩
    rw [relabel_find?_of_settled _ ahead settled] at isHere
    rw [relabel_find?, if_pos rfl] at isThere
    cases isThere
    rcases List.mem_cons.mp (midturn.settled ▸ settled) with rfl | before
    · exact le_rfl
    · rcases midturn.least.reached other before here isHere _ isArc with
        ⟨behind, isBehind, upper⟩
      have lower : here.cost + further < behind.cost := sum ▸ smaller behind isBehind
      exact absurd upper (not_le.mpr lower)
  · exact midturn.traced.earliest previous region added
      (midturn.ledBy_of_relabel ahead same led) other settled further
      (tight_of_relabel ahead settled same tight)

/-- Every other region was labelled before the region that is labelled anew. -/
theorem precedes_relabel {other : Int} (different : target ≠ other)
    (later : ∀ arc ∈ done, (target, weight) ∉ done →
      (next source).idxOf arc < (next source).idxOf (target, weight)) :
    Precedes next state.settled
      (relabel state target ⟨present.cost + weight, some source⟩).labels other target := by
  intro previous added last further led also
  have old := midturn.ledBy_of_relabel ahead different led
  rcases also with ⟨tight, label, isLabel, isLast⟩
  rw [relabel_find?, if_pos rfl] at isLabel
  cases isLabel
  cases isLast
  have isSource : source ∈ state.settled := midturn.settled ▸ List.mem_cons_self
  have same : further = weight := by
    have sum := tight.weight_eq ((relabel_find?_of_settled _ ahead isSource).trans midturn.found)
      ((relabel_find? _ _ _ _).trans (if_pos rfl))
    exact (add_left_cancel sum).symm
  subst same
  have distinct := midturn.rooted.distinct
  rw [midturn.settled] at distinct
  have fresh := (List.nodup_cons.mp distinct).1
  rcases List.mem_cons.mp (midturn.settled ▸ old.settled midturn.rooted) with rfl | before
  · rcases old with ⟨oldTight, there, isThere, isPrevious⟩
    rcases midturn.met other there isThere isPrevious with ⟨arc, isDone, rfl, sum⟩
    have level : added = arc.2 :=
      add_left_cancel ((oldTight.weight_eq midturn.found isThere).symm.trans sum)
    subst level
    refine Or.inr ⟨rfl, later arc isDone fun isAgain => ?_⟩
    rcases midturn.reached _ isAgain with ⟨behind, isBehind, upper⟩
    exact absurd upper (not_le.mpr (smaller behind isBehind))
  · refine Or.inl ?_
    rw [midturn.settled, rank_cons_of_mem before, rank_cons_self fresh]
    exact rank_lt_length before

/-- The region labelled anew waits behind all others. -/
theorem queued_relabel (laws : LawfulCosts weights) (isWeight : weights weight)
    (later : ∀ arc ∈ done, (target, weight) ∉ done →
      (next source).idxOf arc < (next source).idxOf (target, weight)) :
    ∀ first ∈ (relabel state target ⟨present.cost + weight, some source⟩).queue,
      ∀ second ∈ (relabel state target ⟨present.cost + weight, some source⟩).queue,
        first.order < second.order → first.region ≠ second.region →
        Current (relabel state target ⟨present.cost + weight, some source⟩).labels first →
        Current (relabel state target ⟨present.cost + weight, some source⟩).labels second →
        Precedes next state.settled
          (relabel state target ⟨present.cost + weight, some source⟩).labels
          first.region second.region := by
  -- what the region labelled anew was waiting for before is no longer its cost
  have other : ∀ entry ∈ state.queue,
      Current (relabel state target ⟨present.cost + weight, some source⟩).labels entry →
      target ≠ entry.region ∧ Current state.labels entry := by
    rintro entry member ⟨label, isLabel, isCost⟩
    rw [relabel_find?] at isLabel
    by_cases same : target = entry.region
    · rw [if_pos same] at isLabel
      cases isLabel
      have sum := (midturn.least.sums source present midturn.found).add isWeight
      have larger := midturn.least.lt_of_relabelled laws midturn.rooted sum smaller member same
      exact absurd isCost.symm (ne_of_lt larger)
    · rw [if_neg same] at isLabel
      exact ⟨same, label, isLabel, isCost⟩
  intro first isFirst second isSecond sooner different current also
  rcases mem_relabel.mp isFirst with old | rfl
  · rcases other first old current with ⟨notTarget, before⟩
    rcases mem_relabel.mp isSecond with alsoOld | rfl
    · rcases other second alsoOld also with ⟨alsoNot, alsoBefore⟩
      intro previous added last further led alsoLed
      exact midturn.traced.queued first old second alsoOld sooner different before alsoBefore
        previous added last further (midturn.ledBy_of_relabel ahead notTarget led)
        (midturn.ledBy_of_relabel ahead alsoNot alsoLed)
    · exact midturn.precedes_relabel ahead smaller notTarget later
  · rcases mem_relabel.mp isSecond with alsoOld | rfl
    · exact absurd sooner (Nat.lt_asymm (midturn.counted.below second alsoOld))
    · exact absurd rfl different

end Relabel

/-- Following one more connection keeps the order. -/
theorem relax (laws : LawfulCosts weights)
    (weighted : ∀ region, ∀ arc ∈ next region, weights arc.2)
    (positive : ∀ weight, weights weight → 0 < weight)
    (midturn : Midturn next weights domain start source followed present done state)
    {arc : Int × Rat} (isArc : arc ∈ next source) (ahead : arc.1 ∉ state.settled)
    (inside : domain arc.1)
    (later : ∀ other ∈ done, arc ∉ done → (next source).idxOf other < (next source).idxOf arc) :
    Midturn next weights domain start source followed present (done ++ [arc])
      (Search.relax source present.cost state arc) := by
  have isSource : source ∈ state.settled := midturn.settled ▸ List.mem_cons_self
  have within : ∀ region ∈ followed, region ∈ state.settled :=
    fun region member => midturn.settled ▸ List.mem_cons_of_mem _ member
  have kept : ∀ region ∈ state.settled,
      (Search.relax source present.cost state arc).labels.find? region =
        state.labels.find? region :=
    fun region member => relax_find?_of_settled _ _ ahead member
  have nowLeast := midturn.least.relax laws weighted midturn.rooted within isSource midturn.found
    midturn.largest isArc ahead
  refine ⟨midturn.rooted.relax present.cost isSource isArc ahead inside, nowLeast.1,
    midturn.counted.relax source present.cost arc, ?_,
    (relax_settled source present.cost state arc).trans midturn.settled,
    (kept source isSource).trans midturn.found, ?_, ?_, ?_⟩
  · rcases relax_cases source present.cost state arc with ⟨same, -⟩ | ⟨changed, smaller⟩
    · rw [same]
      exact midturn.traced
    · have isWeight := weighted source arc isArc
      rw [changed]
      exact ⟨midturn.earliest_relabel ahead smaller,
        midturn.queued_relabel ahead smaller laws isWeight later,
        midturn.inOrder_relabel ahead (positive arc.2 isWeight)⟩
  · intro region member label isLabel
    rw [relax_settled] at member
    exact midturn.largest region member label ((kept region member).symm.trans isLabel)
  · intro region label isLabel isPrevious
    have before : state.labels.find? region = some label →
        ∃ other ∈ done ++ [arc], other.1 = region ∧ label.cost = present.cost + other.2 := by
      intro old
      rcases midturn.met region label old isPrevious with ⟨other, isDone, isRegion, sum⟩
      exact ⟨other, List.mem_append_left _ isDone, isRegion, sum⟩
    rcases relax_cases source present.cost state arc with ⟨same, -⟩ | ⟨changed, -⟩
    · exact before (same ▸ isLabel)
    · rw [changed, relabel_find?] at isLabel
      split at isLabel
      · rename_i isRegion
        cases isLabel
        exact ⟨arc, List.mem_append_right _ List.mem_cons_self, isRegion, rfl⟩
      · exact before isLabel
  · intro other isDone
    rcases List.mem_append.mp isDone with before | last
    · rcases midturn.reached other before with ⟨label, isLabel, upper⟩
      rcases midturn.least.relax_le laws weighted midturn.found isArc isLabel with
        ⟨lower, isLower, less⟩
      exact ⟨lower, isLower, less.trans upper⟩
    · cases List.mem_singleton.mp last
      exact nowLeast.2

theorem foldl_relax (laws : LawfulCosts weights)
    (weighted : ∀ region, ∀ arc ∈ next region, weights arc.2)
    (positive : ∀ weight, weights weight → 0 < weight)
    (closed : ∀ arc ∈ next source, domain arc.1)
    (midturn : Midturn next weights domain start source followed present done state)
    {todo : List (Int × Rat)} (split : ahead next (source :: followed) source = done ++ todo) :
    Traced next (todo.foldl (Search.relax source present.cost) state) := by
  induction todo generalizing done state with
  | nil => exact midturn.traced
  | cons arc others hypothesis =>
    have isAhead : arc ∈ ahead next (source :: followed) source :=
      split ▸ List.mem_append_right done List.mem_cons_self
    rcases mem_ahead.mp isAhead with ⟨isArc, fresh⟩
    exact hypothesis (midturn.relax laws weighted positive isArc (midturn.settled.symm ▸ fresh)
      (closed arc isArc) fun other isDone isNew => idxOf_lt_of_filter split isDone isNew)
      (split.trans (List.append_cons done arc others))

end Midturn

variable {domain : Finset Int}

/-- A full turn keeps the order. -/
theorem Traced.turn (laws : LawfulCosts weights)
    (weighted : ∀ region, ∀ arc ∈ next region, weights arc.2)
    (positive : ∀ weight, weights weight → 0 < weight)
    (closed : ∀ region ∈ domain, ∀ arc ∈ next region, arc.1 ∈ domain)
    (orderly : Orderly next weights domain start state) (counted : Counted state)
    (traced : Traced next state)
    (popped : Heap.pop? Waiting.before state.queue = some (entry, rest))
    (first : entry.region ∉ state.settled) :
    Traced next (Search.turn next state entry rest) := by
  have rooted := orderly.rooted
  have isMember := (Heap.mem_of_pop? popped entry).mpr (Or.inr rfl)
  rcases rooted.labelled entry isMember with ⟨present, isPresent⟩
  have isCost := orderly.least.popped_cost laws rooted popped first isPresent
  have midturn : Midturn next weights (· ∈ domain) start entry.region state.settled present []
      (Search.settle state entry rest) :=
    { rooted := rooted.settle popped first
      least := orderly.least.settle laws rooted popped first
      counted := counted.settle popped
      traced := traced.settle laws rooted orderly.least counted popped first
      settled := rfl
      found := isPresent
      largest := orderly.least.le_of_settled laws rooted popped first isPresent
      met := fun _ _ found isPrevious =>
        absurd (rooted.settled_of_previous found isPrevious) first
      reached := fun _ member => absurd member List.not_mem_nil }
  have inside := rooted.inside entry.region present isPresent
  rw [Search.turn, ← isCost]
  exact midturn.foldl_relax laws weighted positive (closed entry.region inside) rfl

/-! ## Searches to the end -/

/-- A search to the end settles what it labels, and the labels tell in which order. -/
theorem run_traced {ε : Type} (laws : LawfulCosts weights)
    (weighted : ∀ region, ∀ arc ∈ next region, weights arc.2)
    (positive : ∀ weight, weights weight → 0 < weight)
    (closed : ∀ region ∈ domain, ∀ arc ∈ next region, arc.1 ∈ domain)
    {arcs : List Int → Int → Except ε (List (Int × Rat))}
    (opened : ∀ settled, ∀ region ∈ domain, arcs settled region = .ok (ahead next settled region))
    {source : Nat} (inside : (source : Int) ∈ domain) {turns : Nat}
    (enough : pending next domain (Search.start source) < turns) :
    ∃ final, run arcs none turns (Search.start source) = .ok final ∧
      Orderly next weights domain source final ∧ Traced next final ∧ final.queue.size = 0 := by
  rcases run_ends_orderly laws weighted closed
    (fun state => Counted state ∧ Traced next state) opened none
    (fun _ before popped _ => ⟨before.1.pop popped, before.2.pop popped⟩)
    (fun orderly before popped first => ⟨before.1.turn popped,
      before.2.turn laws weighted positive closed orderly before.1 popped first⟩)
    turns (.begin laws inside) ⟨.begin source, .begin source⟩ enough with
    ⟨final, ended, ⟨orderly, ⟨-, traced⟩, empty⟩ | ⟨last, entry, rest, -, -, -, -, isGoal, -⟩⟩
  · exact ⟨final, ended, orderly, traced, empty⟩
  · cases isGoal

/-- When nothing waits any more, every labelled region is settled. -/
theorem Rooted.settled_of_label {inside : Int → Prop} (rooted : Rooted next inside start state)
    (empty : state.queue.size = 0) {label : Label Rat}
    (found : state.labels.find? region = some label) : region ∈ state.settled := by
  rcases rooted.waits region label found with settled | ⟨entry, member, -⟩
  · exact settled
  · rw [Array.eq_empty_of_size_eq_zero empty] at member
    exact absurd member (Array.not_mem_empty entry)

/-- Of two regions that have been settled at one cost, the one labelled first was settled first. -/
theorem Traced.rank_lt_iff (traced : Traced next state) {first second previous other : Int}
    {weight added : Rat} {label further : Label Rat}
    (firstSettled : first ∈ state.settled) (secondSettled : second ∈ state.settled)
    (isLabel : state.labels.find? first = some label)
    (isFurther : state.labels.find? second = some further) (level : label.cost = further.cost)
    (different : first ≠ second) (led : LedBy next state.labels previous first weight)
    (also : LedBy next state.labels other second added) :
    rank state.settled first < rank state.settled second ↔
      rank state.settled previous < rank state.settled other ∨ previous = other ∧
        (next previous).idxOf (first, weight) < (next other).idxOf (second, added) := by
  constructor
  · intro sooner
    exact (traced.inOrder first firstSettled second label further isLabel isFurther sooner).2 level
      previous weight other added led also
  · intro before
    by_contra later
    have apart : rank state.settled first ≠ rank state.settled second :=
      fun same => different (eq_of_rank_eq firstSettled same)
    rcases (traced.inOrder second secondSettled first further label isFurther isLabel
      (by omega)).2 level.symm other added previous weight also led with sooner | ⟨rfl, sooner⟩
    · rcases before with less | ⟨rfl, -⟩ <;> omega
    · rcases before with less | ⟨-, less⟩ <;> omega

end Egress.Search
