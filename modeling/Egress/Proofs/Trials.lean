import Egress.Proofs.Diffusion

/-!
# The trials of a cycle

Which connections smoke tries in a cycle is settled when the cycle begins: those that lead somewhere
and are not blocked, from each region that holds smoke then.  They are tried region by region in
ascending order, and from one region in the order of their indices.  Each trial takes the next
number of the generator and no other use is made of it, so the generator moves on by as many numbers
as there are trials, whatever comes of them.

Where a cycle returns, the smoke that it leaves is a function of the smoke before it and of the
connections that were crossed: region after region the smoke there grows, and then smoke arrives
behind the crossed connections that leave the region.
-/

namespace Egress

/-! ## Numbers -/

namespace RandomSource

variable {γ : Type} (α : Type) [RandomSource γ α]

/-- The next numbers of a source. -/
def take : Nat → γ → List α
  | 0, _ => []
  | count + 1, source => (draw (α := α) source).1 :: take count (draw (α := α) source).2

/-- A source after some numbers were drawn. -/
def drop : Nat → γ → γ
  | 0, source => source
  | count + 1, source => drop count (draw (α := α) source).2

theorem length_take (count : Nat) (source : γ) : (take α count source).length = count := by
  induction count generalizing source with
  | zero => rfl
  | succ count hypothesis => exact congrArg (· + 1) (hypothesis _)

theorem take_add (first second : Nat) (source : γ) :
    take α (first + second) source =
      take α first source ++ take α second (drop α first source) := by
  induction first generalizing source with
  | zero => rw [Nat.zero_add, take, drop, List.nil_append]
  | succ first hypothesis =>
    rw [Nat.succ_add, take, take, drop, List.cons_append, ← hypothesis]

theorem drop_add (first second : Nat) (source : γ) :
    drop α (first + second) source = drop α second (drop α first source) := by
  induction first generalizing source with
  | zero => rw [Nat.zero_add, drop]
  | succ first hypothesis => rw [Nat.succ_add, drop, drop, hypothesis]

end RandomSource

variable {α γ : Type}

namespace Conditions

/-- A connection that smoke can try: it leads somewhere and is not blocked. -/
def passable (conditions : Conditions α) (connection : Connection α) : Bool :=
  connection.destination.isSome && !conditions.blocked.contains connection.index

/-- The connections that smoke tries from a region. -/
def trialsFrom (conditions : Conditions α) (region : Int) : List (Connection α) :=
  conditions.network.connections.filter fun connection =>
    decide ((connection.source : Int) = region) && conditions.passable connection

theorem trialsFrom_eq (conditions : Conditions α) (index : Nat) :
    conditions.trialsFrom index =
      (conditions.network.leaving index).filter conditions.passable := by
  unfold trialsFrom Network.leaving
  rw [List.filter_filter]
  refine List.filter_congr fun connection _ => ?_
  rw [Bool.and_comm, Bool.eq_iff_iff]
  simp

theorem mem_trialsFrom {conditions : Conditions α} {region : Int} {connection : Connection α} :
    connection ∈ conditions.trialsFrom region ↔ connection ∈ conditions.network.connections ∧
      (connection.source : Int) = region ∧ conditions.passable connection = true := by
  rw [trialsFrom, List.mem_filter, Bool.and_eq_true, decide_eq_true_iff]

end Conditions

/-- The connections among some trials that are crossed: those whose number is below the chance. -/
def crossing [Scalar α] (chance : α) (trials : List (Connection α)) (numbers : List α) :
    List (Connection α) :=
  ((trials.zip numbers).filter fun trial => decide (trial.2 < chance)).map Prod.fst

theorem crossing_append [Scalar α] {chance : α} {first second : List (Connection α)}
    {numbers others : List α} (level : first.length = numbers.length) :
    crossing chance (first ++ second) (numbers ++ others) =
      crossing chance first numbers ++ crossing chance second others := by
  unfold crossing
  rw [List.zip_append level, List.filter_append, List.map_append]

theorem mem_of_mem_crossing [Scalar α] {chance : α} {trials : List (Connection α)}
    {numbers : List α} {connection : Connection α}
    (crossed : connection ∈ crossing chance trials numbers) : connection ∈ trials := by
  rcases List.mem_map.mp crossed with ⟨⟨trial, number⟩, isTrial, rfl⟩
  exact (List.of_mem_zip (List.mem_of_mem_filter isTrial)).1

/-! ## Smoke -/

namespace Pace

variable [Scalar α]

/-- The smoke in a region grows. -/
def rise (pace : Pace α) (smoke : Table Int α) (region : Int) : Table Int α :=
  smoke.insert region
    (Scalar.smaller Scalar.one ((smoke.find? region).getD Scalar.zero + pace.growth))

/-- Smoke arrives in a region. -/
def settle (pace : Pace α) (smoke : Table Int α) (region : Int) : Table Int α :=
  smoke.insert region (Scalar.smaller Scalar.one
    (Scalar.larger ((smoke.find? region).getD Scalar.zero) pace.fresh))

/-- One region takes part: its smoke grows, and smoke arrives where the crossed connections that
leave it lead. -/
def turn (pace : Pace α) (crossings : List (Connection α)) (smoke : Table Int α) (region : Int) :
    Table Int α :=
  ((crossings.filter fun connection => decide ((connection.source : Int) = region)).filterMap
    fun connection => connection.destination).foldl pace.settle (pace.rise smoke region)

/-- Only the connections that leave a region bear on its turn. -/
theorem turn_congr (pace : Pace α) {crossings others : List (Connection α)} {region : Int}
    (same : (crossings.filter fun connection => decide ((connection.source : Int) = region)) =
      others.filter fun connection => decide ((connection.source : Int) = region))
    (smoke : Table Int α) : pace.turn crossings smoke region = pace.turn others smoke region := by
  unfold turn
  rw [same]

end Pace

namespace Outbreak

open Update

/-- The connections that smoke tries in a cycle, in order. -/
def trials (outbreak : Outbreak α γ) : List (Connection α) :=
  outbreak.sources.flatMap outbreak.conditions.trialsFrom

/-- The outbreak with other smoke and another generator. -/
def moved (outbreak : Outbreak α γ) (smoke : Table Int α) (source : γ) : Outbreak α γ :=
  { outbreak with conditions := { outbreak.conditions with smoke }, source }

variable [Scalar α] [RandomSource γ α] {outbreak : Outbreak α γ} {pace : Pace α} {region : Int}

/-- Smoke has tried some connections, one after another: each took the next number. -/
def tryAll (pace : Pace α) (outbreak : Outbreak α γ) (trials : List (Connection α)) :
    Outbreak α γ :=
  outbreak.moved
    (((crossing pace.chance trials (RandomSource.take α trials.length outbreak.source)).filterMap
      fun connection => connection.destination).foldl pace.settle outbreak.conditions.smoke)
    (RandomSource.drop α trials.length outbreak.source)

theorem tryAll_append (outbreak : Outbreak α γ) (first second : List (Connection α)) :
    (outbreak.tryAll pace first).tryAll pace second = outbreak.tryAll pace (first ++ second) := by
  have level : first.length = (RandomSource.take α first.length outbreak.source).length :=
    (RandomSource.length_take α _ _).symm
  unfold tryAll
  rw [List.length_append, RandomSource.take_add, RandomSource.drop_add, crossing_append level,
    List.filterMap_append, List.foldl_append]
  rfl

/-- Trying a connection takes one number if it is passable, and none otherwise. -/
theorem tried_eq_tryAll (outbreak : Outbreak α γ) (connection : Connection α) :
    outbreak.tried pace connection =
      outbreak.tryAll pace ([connection].filter outbreak.conditions.passable) := by
  unfold tried
  cases leads : connection.destination with
  | none =>
    have isDead : ¬ outbreak.conditions.passable connection = true := by
      simp [Conditions.passable, leads]
    rw [List.filter_cons_of_neg isDead]
    rfl
  | some destination =>
    dsimp only
    cases isBlocked : outbreak.conditions.blocked.contains connection.index with
    | true =>
      have isClosed : ¬ outbreak.conditions.passable connection = true := by
        simp only [Conditions.passable, isBlocked, Bool.not_true, Bool.and_false,
          Bool.false_eq_true, not_false_eq_true]
      rw [List.filter_cons_of_neg isClosed]
      rfl
    | false =>
      have isOpen : outbreak.conditions.passable connection = true := by
        simp only [Conditions.passable, isBlocked, leads, Option.isSome_some, Bool.not_false,
          Bool.and_self]
      rw [if_neg Bool.false_ne_true, List.filter_cons_of_pos isOpen, List.filter_nil]
      simp only [tryAll, crossing, RandomSource.take, RandomSource.drop, List.length_singleton,
        List.zip_cons_cons, List.zip_nil_left]
      split
      · rename_i below
        simp only [decide_eq_true below, List.filter_cons_of_pos, List.filter_nil, List.map_cons,
          List.map_nil, List.filterMap_cons, List.filterMap_nil, leads, List.foldl_cons,
          List.foldl_nil]
        rfl
      · rename_i above
        simp only [decide_eq_false above, List.filter_cons_of_neg, Bool.false_eq_true,
          not_false_eq_true, List.filter_nil, List.map_nil, List.filterMap_nil, List.foldl_nil]
        rfl

theorem foldl_tried (connections : List (Connection α)) (outbreak : Outbreak α γ) :
    connections.foldl (tried pace) outbreak =
      outbreak.tryAll pace (connections.filter outbreak.conditions.passable) := by
  induction connections generalizing outbreak with
  | nil => rfl
  | cons connection rest hypothesis =>
    have same : (outbreak.tried pace connection).conditions.passable =
        outbreak.conditions.passable := by
      rw [tried_eq_tryAll]
      rfl
    rw [List.foldl_cons, hypothesis, same, tried_eq_tryAll, tryAll_append, ← List.filter_append,
      List.singleton_append]

/-- A region takes part: its smoke grows, and then smoke tries the connections that leave it. -/
theorem spreadOut_eq_tryAll (inside : outbreak.conditions.network.Holds region) :
    outbreak.spreadOut pace region =
      (outbreak.moved (pace.rise outbreak.conditions.smoke region) outbreak.source).tryAll pace
        (outbreak.conditions.trialsFrom region) := by
  rcases Int.eq_ofNat_of_zero_le inside.1 with ⟨index, rfl⟩
  rw [Conditions.trialsFrom_eq]
  exact foldl_tried (outbreak.conditions.network.leaving index) (outbreak.grown pace index)

/-- What is crossed leaves one of the regions whose connections were tried. -/
theorem source_of_crossing {conditions : Conditions α} {chance : α} {regions : List Int}
    {numbers : List α} {connection : Connection α}
    (crossed : connection ∈ crossing chance (regions.flatMap conditions.trialsFrom) numbers) :
    (connection.source : Int) ∈ regions := by
  rcases List.mem_flatMap.mp (mem_of_mem_crossing crossed) with ⟨region, isRegion, isTrial⟩
  exact (Conditions.mem_trialsFrom.mp isTrial).2.1 ▸ isRegion

/-- Regions take part one after another.  What the numbers of one region decide concerns the
connections that leave it, so no turn but its own looks at it. -/
theorem foldl_spreadOut {regions : List Int} (distinct : regions.Nodup)
    (inside : ∀ region ∈ regions, outbreak.conditions.network.Holds region) :
    let trials := regions.flatMap outbreak.conditions.trialsFrom
    let crossings := crossing pace.chance trials
      (RandomSource.take α trials.length outbreak.source)
    regions.foldl (spreadOut pace) outbreak =
      outbreak.moved (regions.foldl (pace.turn crossings) outbreak.conditions.smoke)
        (RandomSource.drop α trials.length outbreak.source) := by
  induction regions generalizing outbreak with
  | nil => rfl
  | cons region rest hypothesis =>
    intro trials crossings
    rcases List.nodup_cons.mp distinct with ⟨apart, distinctRest⟩
    let own := outbreak.conditions.trialsFrom region
    let others := rest.flatMap outbreak.conditions.trialsFrom
    let ownCrossings := crossing pace.chance own (RandomSource.take α own.length outbreak.source)
    let otherCrossings := crossing pace.chance others
      (RandomSource.take α others.length (RandomSource.drop α own.length outbreak.source))
    have whole : trials = own ++ others := List.flatMap_cons
    have split : crossings = ownCrossings ++ otherCrossings := by
      have level : own.length = (RandomSource.take α own.length outbreak.source).length :=
        (RandomSource.length_take α _ _).symm
      change crossing pace.chance trials _ = _
      rw [whole, List.length_append, RandomSource.take_add, crossing_append level]
    have ownLeave : ∀ connection ∈ ownCrossings, (connection.source : Int) = region := by
      intro connection crossed
      exact (Conditions.mem_trialsFrom.mp (mem_of_mem_crossing crossed)).2.1
    have first : pace.turn crossings outbreak.conditions.smoke region =
        (ownCrossings.filterMap fun connection => connection.destination).foldl pace.settle
          (pace.rise outbreak.conditions.smoke region) := by
      have none : (otherCrossings.filter fun connection =>
          decide ((connection.source : Int) = region)) = [] := by
        refine List.filter_eq_nil_iff.mpr fun connection crossed leaves => apart ?_
        exact of_decide_eq_true leaves ▸ source_of_crossing crossed
      have all : (ownCrossings.filter fun connection =>
          decide ((connection.source : Int) = region)) = ownCrossings :=
        List.filter_eq_self.mpr fun connection crossed =>
          decide_eq_true (ownLeave connection crossed)
      rw [Pace.turn, split, List.filter_append, all, none, List.append_nil]
    have later : ∀ smoke, ∀ other ∈ rest,
        pace.turn crossings smoke other = pace.turn otherCrossings smoke other := by
      intro smoke other isOther
      refine pace.turn_congr ?_ smoke
      have none : (ownCrossings.filter fun connection =>
          decide ((connection.source : Int) = other)) = [] := by
        refine List.filter_eq_nil_iff.mpr fun connection crossed leaves => apart ?_
        exact (ownLeave connection crossed).symm.trans (of_decide_eq_true leaves) ▸ isOther
      rw [split, List.filter_append, none, List.nil_append]
    rw [List.foldl_cons, List.foldl_cons, first, List.foldl_ext _ _ _ later,
      spreadOut_eq_tryAll (inside region List.mem_cons_self)]
    refine (hypothesis distinctRest fun other isOther => ?_).trans ?_
    · exact inside other (List.mem_cons_of_mem _ isOther)
    · rw [whole, List.length_append, RandomSource.drop_add]
      rfl

/-! ## Cycles that return -/

omit [RandomSource γ α] [Scalar α] in
/-- Regions take part in ascending order, each once. -/
theorem sources_ascending (outbreak : Outbreak α γ) : outbreak.sources.Pairwise (· < ·) := by
  have sorted : outbreak.sources.Pairwise fun first second => decide (first ≤ second) = true :=
    List.pairwise_mergeSort
      (fun _ _ _ less more => decide_eq_true
        ((of_decide_eq_true less).trans (of_decide_eq_true more)))
      (fun first second => by simpa using Int.le_total first second) _
  have distinct : outbreak.sources.Nodup :=
    (List.mergeSort_perm _ _).nodup_iff.mpr (Table.keys_nodup _)
  refine (sorted.and distinct).imp fun both => ?_
  exact lt_of_le_of_ne (of_decide_eq_true both.1) both.2

omit [RandomSource γ α] [Scalar α] in
/-- The regions with smoke decide who takes part, and not the order in which they came to have
it. -/
theorem sources_eq {regions : List Int} (ascending : regions.Pairwise (· < ·))
    (held : ∀ region, region ∈ regions ↔ region ∈ outbreak.conditions.smoke.keys) :
    outbreak.sources = regions :=
  (sources_ascending outbreak).eq_of_mem_iff ascending fun region =>
    mem_sources.trans (held region).symm

omit [Scalar α] [RandomSource γ α] in
/-- If each visit that returns makes a change, so does a traversal that returns. -/
theorem forM_returned {β : Type} {items : List β} {visit : β → Update (Outbreak α γ) α PUnit}
    {change : Outbreak α γ → β → Outbreak α γ}
    (each : ∀ outbreak item, Spreads outbreak (change outbreak item))
    (visited : ∀ after, Spreads outbreak after → ∀ item ∈ items,
      (ExceptT.run (visit item) after).1 = .ok ⟨⟩ →
        ExceptT.run (visit item) after = (.ok (), change after item))
    (returned : (ExceptT.run (items.forM visit) outbreak).1 = .ok ⟨⟩) :
    ExceptT.run (items.forM visit) outbreak = (.ok (), items.foldl change outbreak) := by
  induction items generalizing outbreak with
  | nil => rfl
  | cons item rest hypothesis =>
    have first : (ExceptT.run (visit item) outbreak).1 = .ok ⟨⟩ := by
      rw [run_forM_cons] at returned
      rcases ran : ExceptT.run (visit item) outbreak with ⟨fault | value, between⟩
      · rw [ran] at returned
        cases returned
      · rfl
    rw [run_forM_cons, visited outbreak (.refl outbreak) item List.mem_cons_self first]
      at returned ⊢
    refine hypothesis (fun after spreads other member => ?_) returned
    exact visited after ((each outbreak item).trans spreads) other
      (List.mem_cons_of_mem _ member)

end Outbreak

/-- The numbers that a cycle goes by, as far as the settings give them. -/
def Settings.pace [Scalar α] (settings : Settings α) : Pace α where
  growth := (settings.number .growth).toOption.getD Scalar.zero
  fresh := (settings.bound .firstDensity).toOption.getD Scalar.zero
  chance := (settings.bound .spreadChance).toOption.getD Scalar.zero

theorem Settings.Paces.pace_eq [Scalar α] {settings : Settings α} {pace : Pace α}
    (paces : settings.Paces pace) : settings.pace = pace := by
  unfold Settings.pace
  rw [paces.growth, paces.fresh, paces.chance]
  rfl

namespace Outbreak

open Update

variable [Scalar α] [RandomSource γ α] {outbreak : Outbreak α γ} {region : Int}

omit [RandomSource γ α] in
theorem arrive_returned (returned : (ExceptT.run (arrive region) outbreak).1 = .ok ()) :
    ExceptT.run (arrive region) outbreak =
      (.ok (), outbreak.reached outbreak.settings.pace region) := by
  rw [run_arrive] at returned ⊢
  unfold reached Settings.pace
  cases isFresh : outbreak.settings.bound .firstDensity with
  | error fault =>
    rw [isFresh] at returned
    cases returned
  | ok fresh => rfl

/-- A trial that returns has read each number that it used. -/
theorem tryConnection_returned {connection : Connection α}
    (returned : (ExceptT.run (tryConnection connection) outbreak).1 = .ok ()) :
    ExceptT.run (tryConnection connection) outbreak =
      (.ok (), outbreak.tried outbreak.settings.pace connection) := by
  rw [run_tryConnection] at returned ⊢
  unfold tried
  cases leads : connection.destination with
  | none => rfl
  | some destination =>
    rw [leads] at returned
    dsimp only at returned ⊢
    split
    · rfl
    · rename_i passable
      rw [if_neg passable] at returned
      cases isChance : outbreak.settings.bound .spreadChance with
      | error fault =>
        rw [isChance] at returned
        cases returned
      | ok chance =>
        have same : outbreak.settings.pace.chance = chance := by
          rw [Settings.pace, isChance]
          rfl
        rw [isChance] at returned
        dsimp only at returned ⊢
        rw [same]
        split
        · rename_i below
          rw [if_pos below] at returned
          exact arrive_returned returned
        · rfl

/-- A region that takes part without a fault belongs to the network. -/
theorem spreadFrom_returned (returned : (ExceptT.run (spreadFrom region) outbreak).1 = .ok ()) :
    outbreak.conditions.network.Holds region ∧ ExceptT.run (spreadFrom region) outbreak =
      (.ok (), outbreak.spreadOut outbreak.settings.pace region) := by
  rw [run_spreadFrom] at returned ⊢
  cases isGrowth : outbreak.settings.number .growth with
  | error fault =>
    rw [isGrowth] at returned
    cases returned
  | ok growth =>
    have same : outbreak.settings.pace.growth = growth := by
      rw [Settings.pace, isGrowth]
      rfl
    rw [isGrowth] at returned
    dsimp only at returned ⊢
    cases found : outbreak.conditions.network.outgoing region with
    | error fault =>
      rw [found] at returned
      cases returned
    | ok connections =>
      rcases bind_eq_ok.mp found with ⟨index, isIndex, isLeaving⟩
      rcases Network.indexOf_eq_ok_iff.mp isIndex with ⟨rfl, inside⟩
      cases isLeaving
      rw [found] at returned
      refine ⟨⟨Int.natCast_nonneg _, Int.ofNat_lt.mpr inside⟩, ?_⟩
      rw [spreadOut, grown, same, Int.toNat_natCast]
      refine forM_returned (spreads_tried _) (fun after spreads connection _ done => ?_) returned
      have settled : after.settings = outbreak.settings := spreads.settings
      rw [← settled]
      exact tryConnection_returned done

/-- A cycle that returns is a change of state: one turn for each region that held smoke. -/
theorem cycle_returned (returned : (ExceptT.run outbreak.cycle outbreak).1 = .ok ()) :
    (∀ region ∈ outbreak.sources, outbreak.conditions.network.Holds region) ∧
      ExceptT.run outbreak.cycle outbreak =
        (.ok (), outbreak.sources.foldl (spreadOut outbreak.settings.pace) outbreak) := by
  constructor
  · have held := forM_makes (fun region after => after.conditions.network.Holds region)
      spreads_spreadFrom (fun {_ _ _} held spreads => spreads.network ▸ held)
      (fun between _ region _ done => (spreads_spreadFrom between region).network ▸
        (spreadFrom_returned done).1) returned
    intro region isSource
    exact (spreads_cycle outbreak).network ▸ held region isSource
  · refine forM_returned (spreads_spreadOut _) (fun after spreads region _ done => ?_) returned
    have settled : after.settings = outbreak.settings := spreads.settings
    rw [← settled]
    exact (spreadFrom_returned done).2

/-! ## Calls -/

/-- The connections that smoke crosses in a cycle, in order: the trials whose numbers fall below the
chance. -/
def crossings (outbreak : Outbreak α γ) : List (Connection α) :=
  crossing outbreak.settings.pace.chance outbreak.trials
    (RandomSource.take α outbreak.trials.length outbreak.source)

/-- A call that runs a cycle and returns has moved the generator on by one number for each trial,
and the smoke that it leaves is made from the crossed connections, one turn for each region. -/
theorem perform_spread_returned (due : outbreak.isDue = true) {count : Option Nat}
    (returned : (outbreak.perform .spread).2 = .ok count) :
    count = some 0 ∧ (∀ region ∈ outbreak.sources, outbreak.conditions.network.Holds region) ∧
      (outbreak.perform .spread).1 = outbreak.started.moved
        (outbreak.sources.foldl (outbreak.settings.pace.turn outbreak.crossings)
          outbreak.conditions.smoke)
        (RandomSource.drop α outbreak.trials.length outbreak.source) := by
  rw [perform_spread_of_due due] at returned ⊢
  cases result : (ExceptT.run outbreak.started.cycle outbreak.started).1 with
  | error fault =>
    rw [result] at returned
    cases returned
  | ok value =>
    rcases cycle_returned result with ⟨inside, ran⟩
    rw [result] at returned
    refine ⟨(Except.ok.inj returned).symm, inside, ?_⟩
    rw [ran]
    exact foldl_spreadOut (outbreak.sources_ascending.imp ne_of_lt) inside

/-- Where the numbers are given and smoke is in regions of the network only, a call that runs a
cycle returns. -/
theorem perform_spread_paced {pace : Pace α} (due : outbreak.isDue = true)
    (paces : outbreak.settings.Paces pace)
    (inside : ∀ region ∈ outbreak.conditions.smoke.keys,
      outbreak.conditions.network.Holds region) :
    (outbreak.perform .spread).2 = .ok (some 0) := by
  have ran : ExceptT.run outbreak.started.cycle outbreak.started = (.ok (), _) :=
    cycle_paced paces inside
  rw [perform_spread_of_due due, ran]
  rfl

end Outbreak

/-- A source that draws one number again and again. -/
structure Steady (α : Type) where
  number : α

instance : RandomSource (Steady α) α where
  draw source := (source.number, source)

end Egress
