import Mathlib.Algebra.Order.Ring.Rat
import Egress.Proofs.Network
import Egress.Proofs.Outbreak
import Egress.Proofs.Table

/-!
# A cycle as a change of state

A cycle reads its numbers from the settings again and again, and each reading may fail.  Where the
settings give these numbers, and every region that holds smoke belongs to the network, nothing
fails: a cycle then is a change of state, made of one change for each region that takes part and
one for each connection that leaves it.

However it ends, a cycle changes densities and the generator only, and no region loses its smoke.
Smoke comes to a region only across a connection that it can pass, from a region that had smoke when
the cycle began.  If it is certain to cross, a cycle that returns has taken it across all of them.
-/

namespace Egress

/-! ## Draws and chances -/

/-- Sources of numbers from the unit interval, one excluded. -/
class LawfulSource (γ α : Type) [Scalar α] [RandomSource γ α] : Prop where
  nonneg (source : γ) : Scalar.zero ≤ (RandomSource.draw source : α × γ).1
  below_one (source : γ) : (RandomSource.draw source : α × γ).1 < Scalar.one

/-- What chances ask of arithmetic. -/
class LawfulChances (α : Type) [Scalar α] : Prop where
  lt_of_one_le {value chance : α} : value < Scalar.one → Scalar.one ≤ chance → value < chance
  not_lt_of_le_zero {value chance : α} :
    Scalar.zero ≤ value → chance ≤ Scalar.zero → ¬ value < chance

instance : LawfulChances Rat where
  lt_of_one_le below least := lt_of_lt_of_le below least
  not_lt_of_le_zero nonneg most := not_lt_of_ge (le_trans most nonneg)

variable {α γ : Type} [Scalar α]

/-- The numbers that a cycle goes by. -/
structure Pace (α : Type) where
  /-- What is added to a density. -/
  growth : α
  /-- The density of smoke that arrives. -/
  fresh : α
  /-- The chance that smoke crosses a connection. -/
  chance : α

/-- The settings give these numbers. -/
structure Settings.Paces (settings : Settings α) (pace : Pace α) : Prop where
  growth : settings.number .growth = .ok pace.growth
  fresh : settings.bound .firstDensity = .ok pace.fresh
  chance : settings.bound .spreadChance = .ok pace.chance

namespace Outbreak

open Update

/-! ## Changes -/

/-- The density in a region, with or without smoke. -/
def present (outbreak : Outbreak α γ) (region : Int) : α :=
  (outbreak.conditions.smoke.find? region).getD Scalar.zero

def filled (outbreak : Outbreak α γ) (region : Int) (density : α) : Outbreak α γ :=
  { outbreak with conditions := outbreak.conditions.fill region density }

/-- The smoke in a region has grown. -/
def grown (pace : Pace α) (outbreak : Outbreak α γ) (region : Int) : Outbreak α γ :=
  outbreak.filled region (Scalar.smaller Scalar.one (outbreak.present region + pace.growth))

/-- Smoke has arrived in a region. -/
def reached (pace : Pace α) (outbreak : Outbreak α γ) (region : Int) : Outbreak α γ :=
  outbreak.filled region
    (Scalar.smaller Scalar.one (Scalar.larger (outbreak.present region) pace.fresh))

variable [RandomSource γ α]

/-- Smoke has tried a connection. -/
def tried (pace : Pace α) (outbreak : Outbreak α γ) (connection : Connection α) : Outbreak α γ :=
  match connection.destination with
  | none => outbreak
  | some destination =>
    if outbreak.conditions.blocked.contains connection.index then outbreak
    else if (RandomSource.draw outbreak.source : α × γ).1 < pace.chance then
      outbreak.drawn.reached pace destination
    else outbreak.drawn

/-- A region has taken part. -/
def spreadOut (pace : Pace α) (outbreak : Outbreak α γ) (region : Int) : Outbreak α γ :=
  (outbreak.conditions.network.leaving region.toNat).foldl (tried pace) (outbreak.grown pace region)

/-! ## What stays -/

/-- Neither the network nor what is blocked nor the settings have changed, and no region has lost
its smoke. -/
structure Spreads (before after : Outbreak α γ) : Prop where
  network : after.conditions.network = before.conditions.network
  blocked : after.conditions.blocked = before.conditions.blocked
  settings : after.settings = before.settings
  smoke : ∀ region ∈ before.conditions.smoke.keys, region ∈ after.conditions.smoke.keys

variable {before outbreak after : Outbreak α γ} {pace : Pace α}

omit [Scalar α] [RandomSource γ α] in
theorem Spreads.refl (outbreak : Outbreak α γ) : Spreads outbreak outbreak :=
  ⟨rfl, rfl, rfl, fun _ => id⟩

omit [Scalar α] [RandomSource γ α] in
theorem Spreads.trans (earlier : Spreads before outbreak) (later : Spreads outbreak after) :
    Spreads before after :=
  ⟨later.network.trans earlier.network, later.blocked.trans earlier.blocked,
    later.settings.trans earlier.settings,
    fun region holds => later.smoke region (earlier.smoke region holds)⟩

omit [RandomSource γ α] [Scalar α] in
theorem mem_keys_filled {region other : Int} {density : α} :
    other ∈ (outbreak.filled region density).conditions.smoke.keys ↔
      other = region ∨ other ∈ outbreak.conditions.smoke.keys := by
  change other ∈ (outbreak.conditions.smoke.insert region density).keys ↔ _
  exact Table.mem_keys_insert

omit [RandomSource γ α] [Scalar α] in
theorem find?_filled (region other : Int) (density : α) :
    (outbreak.filled region density).conditions.smoke.find? other =
      if region = other then some density else outbreak.conditions.smoke.find? other :=
  Table.find?_insert _ _ _ _

omit [RandomSource γ α] in
theorem present_filled (region other : Int) (density : α) :
    (outbreak.filled region density).present other =
      if region = other then density else outbreak.present other := by
  unfold present
  rw [find?_filled]
  split
  · rfl
  · rfl

omit [RandomSource γ α] [Scalar α] in
theorem spreads_filled (outbreak : Outbreak α γ) (region : Int) (density : α) :
    Spreads outbreak (outbreak.filled region density) :=
  ⟨rfl, rfl, rfl, fun _ holds => mem_keys_filled.mpr (Or.inr holds)⟩

omit [Scalar α] in
theorem spreads_drawn (outbreak : Outbreak α γ) : Spreads outbreak outbreak.drawn :=
  ⟨rfl, rfl, rfl, fun _ => id⟩

theorem spreads_tried (pace : Pace α) (outbreak : Outbreak α γ) (connection : Connection α) :
    Spreads outbreak (outbreak.tried pace connection) := by
  unfold tried
  split
  · exact .refl outbreak
  · split
    · exact .refl outbreak
    · split
      · exact (spreads_drawn outbreak).trans (spreads_filled _ _ _)
      · exact spreads_drawn outbreak

omit [Scalar α] [RandomSource γ α] in
/-- What each change leads to, a sequence of changes leads to. -/
theorem spreads_foldl {β : Type} {change : Outbreak α γ → β → Outbreak α γ}
    (each : ∀ outbreak item, Spreads outbreak (change outbreak item)) (items : List β)
    (outbreak : Outbreak α γ) : Spreads outbreak (items.foldl change outbreak) := by
  induction items generalizing outbreak with
  | nil => exact .refl outbreak
  | cons item rest hypothesis => exact (each outbreak item).trans (hypothesis _)

theorem spreads_spreadOut (pace : Pace α) (outbreak : Outbreak α γ) (region : Int) :
    Spreads outbreak (outbreak.spreadOut pace region) :=
  (spreads_filled _ _ _).trans (spreads_foldl (spreads_tried pace) _ _)

/-! ## Runs -/

omit [Scalar α] [RandomSource γ α] in
theorem mem_sources {region : Int} :
    region ∈ outbreak.sources ↔ region ∈ outbreak.conditions.smoke.keys :=
  (List.mergeSort_perm _ _).mem_iff

omit [RandomSource γ α] in
theorem run_grow (outbreak : Outbreak α γ) (region : Int) :
    ExceptT.run (grow region) outbreak =
      match outbreak.settings.number .growth with
      | .error fault => (.error fault, outbreak)
      | .ok growth =>
        (.ok (), outbreak.filled region
          (Scalar.smaller Scalar.one (outbreak.present region + growth))) := by
  unfold grow
  rw [run_get, run_bind, run_growth]
  cases outbreak.settings.number .growth with
  | error fault => rfl
  | ok growth => rfl

omit [RandomSource γ α] in
theorem run_arrive (outbreak : Outbreak α γ) (region : Int) :
    ExceptT.run (arrive region) outbreak =
      match outbreak.settings.bound .firstDensity with
      | .error fault => (.error fault, outbreak)
      | .ok fresh =>
        (.ok (), outbreak.filled region
          (Scalar.smaller Scalar.one (Scalar.larger (outbreak.present region) fresh))) := by
  unfold arrive
  rw [run_get, run_bind, run_bound]
  cases outbreak.settings.bound .firstDensity with
  | error fault => rfl
  | ok fresh => rfl

theorem run_spreadFrom (outbreak : Outbreak α γ) (region : Int) :
    ExceptT.run (spreadFrom region) outbreak =
      match outbreak.settings.number .growth with
      | .error fault => (.error fault, outbreak)
      | .ok growth =>
        let after := outbreak.filled region
          (Scalar.smaller Scalar.one (outbreak.present region + growth))
        match outbreak.conditions.network.outgoing region with
        | .error fault => (.error fault, after)
        | .ok connections => ExceptT.run (connections.forM tryConnection) after := by
  unfold spreadFrom
  rw [run_bind, run_grow]
  cases outbreak.settings.number .growth with
  | error fault => rfl
  | ok growth =>
    dsimp only
    rw [run_get]
    change ExceptT.run (match outbreak.conditions.network.outgoing region with
      | .error fault => throw fault
      | .ok connections => connections.forM tryConnection) _ = _
    cases outbreak.conditions.network.outgoing region with
    | error fault => rfl
    | ok connections => rfl

theorem tryConnection_paced (paces : outbreak.settings.Paces pace) (connection : Connection α) :
    ExceptT.run (tryConnection connection) outbreak = (.ok (), outbreak.tried pace connection) := by
  have same : outbreak.drawn.settings = outbreak.settings := rfl
  rw [run_tryConnection]
  unfold tried
  cases connection.destination with
  | none => rfl
  | some destination =>
    dsimp only
    rw [paces.chance, run_arrive, same, paces.fresh]
    dsimp only
    split
    · rfl
    · split
      · rfl
      · rfl

omit [Scalar α] [RandomSource γ α] in
/-- If each visit of a traversal makes a change, so does the traversal. -/
theorem forM_paced {β : Type} {items : List β} {visit : β → Update (Outbreak α γ) α PUnit}
    {change : Outbreak α γ → β → Outbreak α γ}
    (each : ∀ outbreak item, Spreads outbreak (change outbreak item))
    (visited : ∀ after, Spreads outbreak after → ∀ item ∈ items,
      ExceptT.run (visit item) after = (.ok (), change after item)) :
    ExceptT.run (items.forM visit) outbreak = (.ok (), items.foldl change outbreak) := by
  induction items generalizing outbreak with
  | nil => rfl
  | cons item rest hypothesis =>
    rw [run_forM_cons, visited outbreak (.refl outbreak) item List.mem_cons_self]
    refine hypothesis fun after spreads other member => ?_
    exact visited after ((each outbreak item).trans spreads) other
      (List.mem_cons_of_mem _ member)

theorem spreadFrom_paced (paces : outbreak.settings.Paces pace) {region : Int}
    (inside : outbreak.conditions.network.Holds region) :
    ExceptT.run (spreadFrom region) outbreak = (.ok (), outbreak.spreadOut pace region) := by
  rcases Int.eq_ofNat_of_zero_le inside.1 with ⟨index, rfl⟩
  rw [run_spreadFrom, paces.growth, Network.outgoing_of_lt (Int.ofNat_lt.mp inside.2)]
  refine forM_paced (spreads_tried pace) fun after spreads connection _ => ?_
  refine tryConnection_paced ?_ connection
  rwa [spreads.settings]

/-- Where the numbers are given and smoke is in regions of the network only, a cycle does not
fail. -/
theorem cycle_paced (paces : outbreak.settings.Paces pace)
    (inside : ∀ region ∈ outbreak.conditions.smoke.keys,
      outbreak.conditions.network.Holds region) :
    ExceptT.run outbreak.cycle outbreak =
      (.ok (), outbreak.sources.foldl (spreadOut pace) outbreak) := by
  refine forM_paced (spreads_spreadOut pace) fun after spreads region isSource => ?_
  refine spreadFrom_paced (spreads.settings ▸ paces) ?_
  rw [spreads.network]
  exact inside region (mem_sources.mp isSource)

/-! ## However a cycle ends -/

/-- Smoke has spread, and only to regions of a kind. -/
structure SpreadsTo (allowed : Int → Prop) (before after : Outbreak α γ) : Prop
    extends Spreads before after where
  only : ∀ region ∈ after.conditions.smoke.keys, allowed region

variable {allowed : Int → Prop} {region : Int} {connection : Connection α}

omit [Scalar α] [RandomSource γ α] in
theorem SpreadsTo.filled (spreads : SpreadsTo allowed before outbreak) (isAllowed : allowed region)
    (density : α) : SpreadsTo allowed before (outbreak.filled region density) := by
  refine ⟨spreads.toSpreads.trans (spreads_filled outbreak region density), fun other holds => ?_⟩
  rcases mem_keys_filled.mp holds with rfl | earlier
  · exact isAllowed
  · exact spreads.only other earlier

omit [Scalar α] [RandomSource γ α] in
theorem SpreadsTo.sourceless (outbreak : Outbreak α γ) (source : γ)
    (spreads : SpreadsTo allowed before outbreak) :
    SpreadsTo allowed before { outbreak with source } :=
  ⟨⟨spreads.network, spreads.blocked, spreads.settings, spreads.smoke⟩, spreads.only⟩

omit [RandomSource γ α] in
theorem keeps_grow_of_allowed (isAllowed : allowed region) :
    Keeps (SpreadsTo allowed before) (grow region : Update (Outbreak α γ) α Unit) := by
  intro outbreak spreads
  rw [run_grow]
  split
  · exact spreads
  · exact spreads.filled isAllowed _

omit [RandomSource γ α] in
theorem keeps_arrive_of_allowed (isAllowed : allowed region) :
    Keeps (SpreadsTo allowed before) (arrive region : Update (Outbreak α γ) α Unit) := by
  intro outbreak spreads
  rw [run_arrive]
  split
  · exact spreads
  · exact spreads.filled isAllowed _

/-- At some time in a cycle, smoke crosses to a region from one that held smoke before it. -/
def Entered (before : Outbreak α γ) (region : Int) : Prop :=
  ∃ connection ∈ before.conditions.network.connections,
    (connection.source : Int) ∈ before.conditions.smoke.keys ∧
      ∃ outbreak, Spreads before outbreak ∧ outbreak.Crosses connection region

/-- A cycle brings smoke to no other regions than those that it enters. -/
theorem spreadsTo_cycle (before : Outbreak α γ) :
    SpreadsTo (fun region => region ∈ before.conditions.smoke.keys ∨ before.Entered region) before
      (ExceptT.run before.cycle before).2 := by
  -- The sources are those of the state before the cycle, so what is entered meanwhile is no source.
  refine keeps_forM (fun region isSource => ?_) before ⟨.refl before, fun _ => Or.inl⟩
  have held := mem_sources.mp isSource
  refine keeps_spreadFrom (keeps_grow_of_allowed (Or.inl held)) ?_
  intro outbreak spreads connections found connection isConnection
  rcases bind_eq_ok.mp found with ⟨index, isIndex, same⟩
  cases same
  rcases Network.indexOf_eq_ok_iff.mp isIndex with ⟨rfl, -⟩
  rcases Network.mem_leaving.mp isConnection with ⟨member, rfl⟩
  rw [spreads.network] at member
  refine keeps_tryConnection SpreadsTo.sourceless fun outbreak destination spreads crosses => ?_
  exact keeps_arrive_of_allowed
    (Or.inr ⟨connection, member, held, outbreak, spreads.toSpreads, crosses⟩)

theorem spreads_cycle (outbreak : Outbreak α γ) :
    Spreads outbreak (ExceptT.run outbreak.cycle outbreak).2 :=
  (spreadsTo_cycle outbreak).toSpreads

/-! ## Cycles that return -/

/-- Whatever is drawn, it falls below the chance. -/
def Certain (outbreak : Outbreak α γ) : Prop :=
  ∃ chance, outbreak.settings.bound .spreadChance = .ok chance ∧
    ∀ source : γ, (RandomSource.draw source : α × γ).1 < chance

/-- Smoke is behind a connection, if it can pass it. -/
def IsBehind (outbreak : Outbreak α γ) (connection : Connection α) : Prop :=
  ∀ destination, connection.destination = some destination →
    connection.index ∉ outbreak.conditions.blocked → destination ∈ outbreak.conditions.smoke.keys

omit [Scalar α] [RandomSource γ α] in
theorem IsBehind.lasts (isBehind : before.IsBehind connection) (spreads : Spreads before after) :
    after.IsBehind connection := by
  intro destination leads passable
  rw [spreads.blocked] at passable
  exact spreads.smoke destination (isBehind destination leads passable)

omit [Scalar α] [RandomSource γ α] in
theorem spreads_of_keeps {call : Update (Outbreak α γ) α PUnit}
    (keeps : Keeps (SpreadsTo (fun _ => True) outbreak) call) :
    Spreads outbreak (ExceptT.run call outbreak).2 :=
  (keeps outbreak ⟨.refl outbreak, fun _ _ => trivial⟩).toSpreads

theorem spreads_tryConnection (outbreak : Outbreak α γ) (connection : Connection α) :
    Spreads outbreak (ExceptT.run (tryConnection connection) outbreak).2 :=
  spreads_of_keeps (keeps_tryConnection SpreadsTo.sourceless
    fun _ _ _ _ => keeps_arrive_of_allowed trivial)

theorem spreads_spreadFrom (outbreak : Outbreak α γ) (region : Int) :
    Spreads outbreak (ExceptT.run (spreadFrom region) outbreak).2 :=
  spreads_of_keeps (keeps_spreadFrom (keeps_grow_of_allowed trivial) fun _ _ _ _ _ _ =>
    keeps_tryConnection SpreadsTo.sourceless fun _ _ _ _ => keeps_arrive_of_allowed trivial)

omit [Scalar α] [RandomSource γ α] in
/-- What each visit of a traversal makes, and smoke that spreads does not undo, a traversal has made
when it returns. -/
theorem forM_makes {β : Type} {items : List β} {visit : β → Update (Outbreak α γ) α PUnit}
    (made : β → Outbreak α γ → Prop)
    (spreads : ∀ outbreak item, Spreads outbreak (ExceptT.run (visit item) outbreak).2)
    (lasts : ∀ {item before after}, made item before → Spreads before after → made item after)
    (makes : ∀ between, Spreads outbreak between → ∀ item ∈ items,
      (ExceptT.run (visit item) between).1 = .ok ⟨⟩ →
        made item (ExceptT.run (visit item) between).2)
    (returned : (ExceptT.run (items.forM visit) outbreak).1 = .ok ⟨⟩) :
    ∀ item ∈ items, made item (ExceptT.run (items.forM visit) outbreak).2 := by
  induction items generalizing outbreak with
  | nil => exact fun item member => absurd member List.not_mem_nil
  | cons first rest hypothesis =>
    have visited := spreads outbreak first
    have firstMade := makes outbreak (.refl outbreak) first List.mem_cons_self
    rw [run_forM_cons] at returned ⊢
    rcases ran : ExceptT.run (visit first) outbreak with ⟨fault | value, between⟩
    · rw [ran] at returned
      cases returned
    · rw [ran] at returned firstMade visited
      intro item member
      rcases List.mem_cons.mp member with rfl | isLater
      · have later : Spreads between (ExceptT.run (rest.forM visit) between).2 :=
          keeps_forM (fun other _ after earlier => earlier.trans (spreads after other)) between
            (.refl between)
        exact lasts (firstMade rfl) later
      · refine hypothesis (fun after spread other isOther => ?_) returned item isLater
        exact makes after (visited.trans spread) other (List.mem_cons_of_mem _ isOther)

/-- Where smoke is certain to cross, it is behind every connection that was tried. -/
theorem tryConnection_makes (certain : outbreak.Certain)
    (returned : (ExceptT.run (tryConnection connection) outbreak).1 = .ok ⟨⟩) :
    (ExceptT.run (tryConnection connection) outbreak).2.IsBehind connection := by
  rcases certain with ⟨chance, isChance, below⟩
  intro destination leads passable
  rw [(spreads_tryConnection outbreak connection).blocked] at passable
  have isOpen : ¬ outbreak.conditions.blocked.contains connection.index = true := by
    rwa [List.contains_iff_mem]
  rw [run_tryConnection, leads] at returned ⊢
  dsimp only at returned ⊢
  rw [if_neg isOpen, isChance] at returned ⊢
  dsimp only at returned ⊢
  rw [if_pos (below _), run_arrive] at returned ⊢
  split at returned
  · cases returned
  · exact mem_keys_filled.mpr (Or.inl rfl)

theorem Certain.lasts (certain : before.Certain) (spreads : Spreads before after) :
    after.Certain := by
  rcases certain with ⟨chance, isChance, below⟩
  exact ⟨chance, spreads.settings ▸ isChance, below⟩

theorem spreadFrom_makes (certain : outbreak.Certain)
    (returned : (ExceptT.run (spreadFrom region) outbreak).1 = .ok ⟨⟩) :
    ∀ connection ∈ outbreak.conditions.network.connections, (connection.source : Int) = region →
      (ExceptT.run (spreadFrom region) outbreak).2.IsBehind connection := by
  rintro connection member rfl
  rw [run_spreadFrom] at returned ⊢
  cases isGrowth : outbreak.settings.number .growth with
  | error fault =>
    rw [isGrowth] at returned
    cases returned
  | ok growth =>
    rw [isGrowth] at returned
    dsimp only at returned ⊢
    cases found : outbreak.conditions.network.outgoing connection.source with
    | error fault =>
      rw [found] at returned
      cases returned
    | ok connections =>
      rw [found] at returned
      refine forM_makes (fun connection after => after.IsBehind connection) spreads_tryConnection
        IsBehind.lasts (fun between spreads other _ => ?_) returned connection ?_
      · exact tryConnection_makes (certain.lasts ((spreads_filled _ _ _).trans spreads))
      · rcases bind_eq_ok.mp found with ⟨index, isIndex, same⟩
        cases same
        rcases Network.indexOf_eq_ok_iff.mp isIndex with ⟨sameIndex, -⟩
        exact Network.mem_leaving.mpr ⟨member, Int.ofNat.inj sameIndex⟩

/-- Where smoke is certain to cross, a cycle that returns leaves it behind every connection that
leaves a region with smoke. -/
theorem cycle_makes (certain : before.Certain)
    (returned : (ExceptT.run before.cycle before).1 = .ok ⟨⟩) :
    ∀ connection ∈ before.conditions.network.connections,
      (connection.source : Int) ∈ before.conditions.smoke.keys →
        (ExceptT.run before.cycle before).2.IsBehind connection := by
  intro connection member held
  refine forM_makes
    (fun region after => ∀ connection ∈ before.conditions.network.connections,
      (connection.source : Int) = region → after.IsBehind connection)
    spreads_spreadFrom (fun made spreads connection member leaves => ?_)
    (fun between spreads region _ done => ?_) returned connection.source (mem_sources.mpr held)
    connection member rfl
  · exact (made connection member leaves).lasts spreads
  · rw [← spreads.network]
    exact spreadFrom_makes (certain.lasts spreads) done

end Outbreak

end Egress
