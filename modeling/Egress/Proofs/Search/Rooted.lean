import Egress.Proofs.Search.Trail

/-!
# Labels lead back to the start

Every label but that of the start names a region that was settled before, and a region is labelled
by one settled before it.  So whoever follows the labels back from any region passes earlier and
earlier settled regions and arrives at the start.  None of this depends on the weights.

The facts are kept by each part of a turn: by skipping a region that is settled already, by settling
one, and by following the connections that leave it.
-/

namespace Egress.Search

variable {α : Type} [Scalar α]

/-- Each settled region was labelled by one settled before it. -/
def SettledInTurn (labels : Labels α) : List Int → Prop
  | [] => True
  | region :: earlier =>
    (∀ label previous, labels.find? region = some label → label.previous = some previous →
      previous ∈ earlier) ∧ SettledInTurn labels earlier

omit [Scalar α] in
theorem SettledInTurn.congr {labels changed : Labels α} {settled : List Int}
    (inTurn : SettledInTurn labels settled)
    (same : ∀ region ∈ settled, changed.find? region = labels.find? region) :
    SettledInTurn changed settled := by
  induction settled with
  | nil => trivial
  | cons region earlier hypothesis =>
    refine ⟨?_, hypothesis inTurn.2 fun other member => same other (List.mem_cons_of_mem _ member)⟩
    intro label previous found
    rw [same region List.mem_cons_self] at found
    exact inTurn.1 label previous found

/-- What every turn keeps, whatever the weights are. -/
structure Rooted (next : Int → List (Int × α)) (domain : Int → Prop) (start : Int)
    (state : State α) : Prop where
  origin : state.labels.find? start = some ⟨Scalar.zero, none⟩
  /-- The start is settled first. -/
  fresh : start ∈ state.settled ∨ state.settled = [] ∧ ∀ entry ∈ state.queue, entry.region = start
  inside : ∀ region label, state.labels.find? region = some label → domain region
  labelled : ∀ entry ∈ state.queue, ∃ label, state.labels.find? entry.region = some label
  /-- A labelled region that is not settled waits at its present cost. -/
  waits : ∀ region label, state.labels.find? region = some label → region ∈ state.settled ∨
    ∃ entry ∈ state.queue, entry.region = region ∧ entry.cost = label.cost
  led : ∀ region label, state.labels.find? region = some label → region ≠ start →
    ∃ previous, label.previous = some previous ∧ previous ∈ state.settled ∧
      ∃ weight, (region, weight) ∈ next previous
  settled_labelled : ∀ region ∈ state.settled, ∃ label, state.labels.find? region = some label
  inTurn : SettledInTurn state.labels state.settled
  distinct : state.settled.Nodup

variable {next : Int → List (Int × α)} {domain : Int → Prop} {start : Int} {state : State α}

/-- Give a region a new label and let it wait. -/
def relabel (state : State α) (target : Int) (label : Label α) : State α :=
  enqueue { state with labels := state.labels.insert target label } label.cost target

theorem relabel_find? (state : State α) (target : Int) (label : Label α) (region : Int) :
    (relabel state target label).labels.find? region =
      if target = region then some label else state.labels.find? region :=
  Table.find?_insert _ _ _ _

/-- A new label for a region that is not settled leaves the settled regions alone. -/
theorem relabel_find?_of_settled {state : State α} {target region : Int} (label : Label α)
    (ahead : target ∉ state.settled) (settled : region ∈ state.settled) :
    (relabel state target label).labels.find? region = state.labels.find? region := by
  rw [relabel_find?, if_neg]
  intro same
  exact ahead (same ▸ settled)

theorem mem_relabel {state : State α} {target : Int} {label : Label α} {entry : Waiting α} :
    entry ∈ (relabel state target label).queue ↔
      entry ∈ state.queue ∨ entry = ⟨label.cost, state.count, target⟩ :=
  Heap.mem_push

/-- Following a connection either changes nothing, because the region behind it is labelled at no
more than the cost of the way through the connection, or gives the region a smaller label. -/
theorem relax_cases (source : Int) (reached : α) (state : State α) (arc : Int × α) :
    (relax source reached state arc = state ∧
      ∃ label, state.labels.find? arc.1 = some label ∧ ¬ reached + arc.2 < label.cost) ∨
    (relax source reached state arc = relabel state arc.1 ⟨reached + arc.2, some source⟩ ∧
      ∀ label, state.labels.find? arc.1 = some label → reached + arc.2 < label.cost) := by
  unfold relax improves
  cases found : state.labels.find? arc.1 with
  | none =>
    refine Or.inr ⟨if_pos rfl, ?_⟩
    intro label impossible
    cases impossible
  | some label =>
    by_cases less : reached + arc.2 < label.cost
    · refine Or.inr ⟨if_pos (decide_eq_true less), ?_⟩
      intro other same
      cases same
      exact less
    · refine Or.inl ⟨if_neg ?_, label, rfl, less⟩
      simp only [decide_eq_true_eq]
      exact less

@[simp] theorem relax_settled (source : Int) (reached : α) (state : State α) (arc : Int × α) :
    (relax source reached state arc).settled = state.settled := by
  rcases relax_cases source reached state arc with ⟨same, -⟩ | ⟨changed, -⟩
  · rw [same]
  · rw [changed]
    rfl

theorem relax_size (source : Int) (reached : α) (state : State α) (arc : Int × α) :
    (relax source reached state arc).queue.size ≤ state.queue.size + 1 := by
  rcases relax_cases source reached state arc with ⟨same, -⟩ | ⟨changed, -⟩
  · rw [same]
    exact Nat.le_succ _
  · rw [changed]
    exact Nat.le_of_eq (Heap.size_push _ _ _)

/-- Following a connection to a region that is not settled leaves the settled regions alone. -/
theorem relax_find?_of_settled (source : Int) (reached : α) {state : State α} {arc : Int × α}
    {region : Int} (ahead : arc.1 ∉ state.settled) (settled : region ∈ state.settled) :
    (relax source reached state arc).labels.find? region = state.labels.find? region := by
  rcases relax_cases source reached state arc with ⟨same, -⟩ | ⟨changed, -⟩
  · rw [same]
  · rw [changed, relabel_find?_of_settled _ ahead settled]

theorem foldl_relax_settled (source : Int) (reached : α) (found : List (Int × α))
    (state : State α) : (found.foldl (relax source reached) state).settled = state.settled := by
  induction found generalizing state with
  | nil => rfl
  | cons arc others hypothesis =>
    rw [List.foldl_cons, hypothesis, relax_settled]

theorem foldl_relax_find?_of_settled (source : Int) (reached : α) {found : List (Int × α)}
    {state : State α} (ahead : ∀ arc ∈ found, arc.1 ∉ state.settled) {region : Int}
    (settled : region ∈ state.settled) :
    (found.foldl (relax source reached) state).labels.find? region =
      state.labels.find? region := by
  induction found generalizing state with
  | nil => rfl
  | cons arc others hypothesis =>
    rw [List.foldl_cons, hypothesis]
    · exact relax_find?_of_settled source reached (ahead arc List.mem_cons_self) settled
    · rw [relax_settled]
      exact fun other member => ahead other (List.mem_cons_of_mem _ member)
    · rw [relax_settled]
      exact settled

theorem foldl_relax_size (source : Int) (reached : α) (found : List (Int × α))
    (state : State α) :
    (found.foldl (relax source reached) state).queue.size ≤ state.queue.size + found.length := by
  induction found generalizing state with
  | nil => exact Nat.le_refl _
  | cons arc others hypothesis =>
    have one := relax_size source reached state arc
    have all := hypothesis (relax source reached state arc)
    rw [List.foldl_cons, List.length_cons]
    omega

namespace Rooted

/-- At the beginning the start waits alone. -/
theorem begin {source : Nat} (inside : domain source) :
    Rooted next domain source (Search.start (α := α) source) := by
  have labels : ∀ region, (Search.start (α := α) source).labels.find? region =
      if (source : Int) = region then some ⟨Scalar.zero, none⟩ else none := by
    intro region
    change ((∅ : Labels α).insert source _).find? region = _
    rw [Table.find?_insert, Table.find?_empty]
  have queue : ∀ entry, entry ∈ (Search.start (α := α) source).queue ↔
      entry = ⟨Scalar.zero, 0, source⟩ := by
    intro entry
    apply Heap.mem_push.trans
    simp only [Array.not_mem_empty, false_or]
  have only : ∀ region label, (Search.start (α := α) source).labels.find? region = some label →
      region = source ∧ label = ⟨Scalar.zero, none⟩ := by
    intro region label found
    rw [labels] at found
    split at found
    · rename_i same
      cases found
      exact ⟨same.symm, rfl⟩
    · cases found
  constructor
  · rw [labels, if_pos rfl]
  · refine Or.inr ⟨rfl, ?_⟩
    intro entry member
    rw [(queue entry).mp member]
  · intro region label found
    exact (only region label found).1 ▸ inside
  · intro entry member
    rw [(queue entry).mp member, labels]
    exact ⟨_, if_pos rfl⟩
  · intro region label found
    rcases only region label found with ⟨rfl, rfl⟩
    exact Or.inr ⟨_, (queue _).mpr rfl, rfl, rfl⟩
  · intro region label found different
    exact absurd (only region label found).1 different
  · intro region member
    cases member
  · trivial
  · exact List.nodup_nil

theorem waiting_inside (rooted : Rooted next domain start state) :
    ∀ entry ∈ state.queue, domain entry.region := by
  intro entry member
  rcases rooted.labelled entry member with ⟨label, isLabel⟩
  exact rooted.inside entry.region label isLabel

/-- Regions are labelled from settled ones. -/
theorem settled_of_previous (rooted : Rooted next domain start state) {region previous : Int}
    {label : Label α} (found : state.labels.find? region = some label)
    (isPrevious : label.previous = some previous) : previous ∈ state.settled := by
  have different : region ≠ start := by
    rintro rfl
    cases found.symm.trans rooted.origin
    cases isPrevious
  rcases rooted.led region label found different with ⟨other, isOther, settled, -⟩
  cases isPrevious.symm.trans isOther
  exact settled

variable {entry : Waiting α} {rest : Array (Waiting α)}

/-- A region that was settled before loses its turn. -/
theorem skip (rooted : Rooted next domain start state)
    (popped : Heap.pop? Waiting.before state.queue = some (entry, rest))
    (again : entry.region ∈ state.settled) :
    Rooted next domain start { state with queue := rest } where
  origin := rooted.origin
  fresh := rooted.fresh.imp_right fun unsettled => by
    rw [unsettled.1] at again
    cases again
  inside := rooted.inside
  labelled := fun other member =>
    rooted.labelled other ((Heap.mem_of_pop? popped other).mpr (Or.inl member))
  waits := by
    intro region label found
    rcases rooted.waits region label found with settled | ⟨other, member, same, cost⟩
    · exact Or.inl settled
    · rcases (Heap.mem_of_pop? popped other).mp member with stays | taken
      · exact Or.inr ⟨other, stays, same, cost⟩
      · rw [← same, taken]
        exact Or.inl again
  led := rooted.led
  settled_labelled := rooted.settled_labelled
  inTurn := rooted.inTurn
  distinct := rooted.distinct

/-- A region is settled at its first turn. -/
theorem settle (rooted : Rooted next domain start state)
    (popped : Heap.pop? Waiting.before state.queue = some (entry, rest))
    (first : entry.region ∉ state.settled) :
    Rooted next domain start
      { state with queue := rest, settled := entry.region :: state.settled } where
  origin := rooted.origin
  fresh := by
    apply Or.inl
    rcases rooted.fresh with settled | ⟨-, onlyStart⟩
    · exact List.mem_cons_of_mem _ settled
    · rw [onlyStart entry ((Heap.mem_of_pop? popped entry).mpr (Or.inr rfl))]
      exact List.mem_cons_self
  inside := rooted.inside
  labelled := fun other member =>
    rooted.labelled other ((Heap.mem_of_pop? popped other).mpr (Or.inl member))
  waits := by
    intro region label found
    rcases rooted.waits region label found with settled | ⟨other, member, same, cost⟩
    · exact Or.inl (List.mem_cons_of_mem _ settled)
    · rcases (Heap.mem_of_pop? popped other).mp member with stays | taken
      · exact Or.inr ⟨other, stays, same, cost⟩
      · rw [← same, taken]
        exact Or.inl List.mem_cons_self
  led := by
    intro region label found different
    rcases rooted.led region label found different with ⟨previous, isPrevious, settled, arc⟩
    exact ⟨previous, isPrevious, List.mem_cons_of_mem _ settled, arc⟩
  settled_labelled := by
    intro region member
    rcases List.mem_cons.mp member with rfl | settled
    · exact rooted.labelled entry ((Heap.mem_of_pop? popped entry).mpr (Or.inr rfl))
    · exact rooted.settled_labelled region settled
  inTurn := by
    refine ⟨?_, rooted.inTurn⟩
    intro label previous found isPrevious
    by_cases isStart : entry.region = start
    · rw [show state.labels.find? entry.region = _ from isStart ▸ rooted.origin] at found
      cases found
      cases isPrevious
    · rcases rooted.led entry.region label found isStart with ⟨other, isOther, settled, -⟩
      rw [isPrevious] at isOther
      cases isOther
      exact settled
  distinct := List.nodup_cons.mpr ⟨first, rooted.distinct⟩

theorem start_settled (rooted : Rooted next domain start state) {region : Int}
    (settled : region ∈ state.settled) : start ∈ state.settled := by
  rcases rooted.fresh with done | ⟨none, -⟩
  · exact done
  · rw [none] at settled
    cases settled

/-- A region that is not settled may be labelled anew from a settled one. -/
theorem relabel {source target : Int} {cost weight : α} (rooted : Rooted next domain start state)
    (settled : source ∈ state.settled) (isArc : (target, weight) ∈ next source)
    (ahead : target ∉ state.settled) (inside : domain target) :
    Rooted next domain start (Search.relabel state target ⟨cost, some source⟩) := by
  have startSettled := rooted.start_settled settled
  have kept : ∀ region ∈ state.settled,
      (Search.relabel state target ⟨cost, some source⟩).labels.find? region =
        state.labels.find? region :=
    fun region member => relabel_find?_of_settled _ ahead member
  constructor
  · rw [kept start startSettled]
    exact rooted.origin
  · exact Or.inl startSettled
  · intro region label found
    rw [relabel_find?] at found
    split at found
    · rename_i same
      exact same ▸ inside
    · exact rooted.inside region label found
  · intro entry member
    rw [relabel_find?]
    split
    · exact ⟨_, rfl⟩
    · rename_i other
      rcases mem_relabel.mp member with old | new
      · exact rooted.labelled entry old
      · rw [new] at other
        exact absurd rfl other
  · intro region label found
    rw [relabel_find?] at found
    split at found
    · rename_i same
      cases found
      exact Or.inr ⟨_, mem_relabel.mpr (Or.inr rfl), same, rfl⟩
    · rcases rooted.waits region label found with done | ⟨entry, member, isRegion, isCost⟩
      · exact Or.inl done
      · exact Or.inr ⟨entry, mem_relabel.mpr (Or.inl member), isRegion, isCost⟩
  · intro region label found different
    rw [relabel_find?] at found
    split at found
    · rename_i same
      cases found
      exact ⟨source, rfl, settled, weight, same ▸ isArc⟩
    · exact rooted.led region label found different
  · intro region member
    rw [kept region member]
    exact rooted.settled_labelled region member
  · exact rooted.inTurn.congr kept
  · exact rooted.distinct

/-- Following a connection of a settled region to one that is not settled keeps the facts. -/
theorem relax {source : Int} {arc : Int × α} (rooted : Rooted next domain start state)
    (reached : α) (settled : source ∈ state.settled) (isArc : arc ∈ next source)
    (ahead : arc.1 ∉ state.settled) (inside : domain arc.1) :
    Rooted next domain start (Search.relax source reached state arc) := by
  rcases relax_cases source reached state arc with ⟨same, -⟩ | ⟨changed, -⟩
  · rw [same]
    exact rooted
  · rw [changed]
    exact rooted.relabel settled isArc ahead inside

theorem foldl_relax {source : Int} (reached : α) {found : List (Int × α)}
    (rooted : Rooted next domain start state) (settled : source ∈ state.settled)
    (arcs : ∀ arc ∈ found, arc ∈ next source ∧ arc.1 ∉ state.settled ∧ domain arc.1) :
    Rooted next domain start (found.foldl (Search.relax source reached) state) := by
  induction found generalizing state with
  | nil => exact rooted
  | cons arc others hypothesis =>
    rcases arcs arc List.mem_cons_self with ⟨isArc, ahead, inside⟩
    rw [List.foldl_cons]
    apply hypothesis (rooted.relax reached settled isArc ahead inside)
    · rw [relax_settled]
      exact settled
    · rw [relax_settled]
      exact fun other member => arcs other (List.mem_cons_of_mem _ member)

end Rooted

end Egress.Search
