import Egress.Outbreak
import Egress.Proofs.Traversal

/-!
# What calls on an outbreak keep

A call on an outbreak may fail in the middle and keeps what it had done before.  So a property that
is to hold after the call has to survive each of its parts, whether the rest comes to be run or
not.  A program built from parts that keep a property keeps it too.

No call changes the network for which the conditions are kept.
-/

namespace Egress

variable {α β δ σ : Type}

namespace Update

/-! ## How calls are run -/

theorem run_bind (first : Update σ α β) (next : β → Update σ α δ) (state : σ) :
    ExceptT.run (first >>= next) state =
      match ExceptT.run first state with
      | (.ok value, after) => ExceptT.run (next value) after
      | (.error fault, after) => (.error fault, after) := by
  change ExceptT.bindCont next (ExceptT.run first state).1 (ExceptT.run first state).2 = _
  rcases ExceptT.run first state with ⟨fault | value, after⟩
  · rfl
  · rfl

/-- A traversal goes on from where its first visit ends, unless that fails. -/
theorem run_forM_cons (visit : β → Update σ α PUnit) (item : β) (rest : List β) (state : σ) :
    ExceptT.run ((item :: rest).forM visit) state =
      match ExceptT.run (visit item) state with
      | (.ok _, after) => ExceptT.run (rest.forM visit) after
      | (.error fault, after) => (.error fault, after) := by
  change ExceptT.run (visit item >>= fun _ => rest.forM visit) state = _
  rw [run_bind]
  rcases ExceptT.run (visit item) state with ⟨fault | value, after⟩
  · rfl
  · rfl

theorem run_get (next : σ → Update σ α β) (state : σ) :
    ExceptT.run (get >>= next) state = ExceptT.run (next state) state :=
  rfl

theorem run_modify (change : σ → σ) (next : PUnit → Update σ α β) (state : σ) :
    ExceptT.run (modify change >>= next) state = ExceptT.run (next ⟨⟩) (change state) :=
  rfl

/-! ## What calls keep -/

/-- However the call ends, a property of the state is kept. -/
def Keeps (holds : σ → Prop) (call : Update σ α β) : Prop :=
  ∀ state, holds state → holds (call.run state).2

variable {holds : σ → Prop}

theorem keeps_pure (value : β) : Keeps holds (pure value : Update σ α β) :=
  fun _ before => before

theorem keeps_throw (fault : Fault α) : Keeps holds (throw fault : Update σ α β) :=
  fun _ before => before

theorem keeps_bind {first : Update σ α β} {next : β → Update σ α δ} (kept : Keeps holds first)
    (onward : ∀ value, Keeps holds (next value)) : Keeps holds (first >>= next) := by
  intro state before
  have between := kept state before
  change holds (ExceptT.run (first >>= next) state).2
  change holds (ExceptT.run first state).2 at between
  rw [run_bind]
  rcases ran : ExceptT.run first state with ⟨fault | value, after⟩
  · rw [ran] at between
    exact between
  · rw [ran] at between
    exact onward value after between

/-- What is read from the state has the property as well. -/
theorem keeps_get {next : σ → Update σ α β}
    (onward : ∀ state, holds state → Keeps holds (next state)) : Keeps holds (get >>= next) :=
  fun state before => onward state before state before

theorem keeps_set {state : σ} (after : holds state) : Keeps holds (set state : Update σ α PUnit) :=
  fun _ _ => after

theorem keeps_forM {items : List β} {call : β → Update σ α PUnit}
    (kept : ∀ item ∈ items, Keeps holds (call item)) : Keeps holds (items.forM call) := by
  induction items with
  | nil => exact keeps_pure _
  | cons item rest hypothesis =>
    apply keeps_bind (kept item List.mem_cons_self)
    exact fun _ => hypothesis fun other member => kept other (List.mem_cons_of_mem _ member)

end Update

namespace Conditions

variable [Scalar α] {conditions after : Conditions α} {reference : Int}

omit [Scalar α] in
theorem network_of_block (done : conditions.block reference = .ok after) :
    after.network = conditions.network := by
  rcases bind_eq_ok.mp done with ⟨index, -, rest⟩
  split at rest
  · cases rest
    rfl
  · cases rest
    rfl

omit [Scalar α] in
theorem network_of_unblock (done : conditions.unblock reference = .ok after) :
    after.network = conditions.network := by
  rcases bind_eq_ok.mp done with ⟨index, -, same⟩
  cases same
  rfl

end Conditions

namespace Outbreak

open Update

variable {γ : Type} [Scalar α] {holds : Outbreak α γ → Prop}

theorem keeps_bound (name : Setting) : Keeps holds (bound name : Update (Outbreak α γ) α α) := by
  refine keeps_get fun outbreak _ => ?_
  split
  · exact keeps_pure _
  · exact keeps_throw _

/-- Reading a setting changes nothing. -/
theorem run_bound (name : Setting) (outbreak : Outbreak α γ) :
    ExceptT.run (bound name : Update (Outbreak α γ) α α) outbreak =
      (outbreak.settings.bound name, outbreak) := by
  unfold bound
  rw [run_get]
  cases outbreak.settings.bound name with
  | ok value => rfl
  | error fault => rfl

/-- Reading the growth changes nothing. -/
theorem run_growth (outbreak : Outbreak α γ) :
    ExceptT.run (growth : Update (Outbreak α γ) α α) outbreak =
      (outbreak.settings.number .growth, outbreak) := by
  unfold growth
  rw [run_get]
  cases outbreak.settings.number .growth with
  | ok value => rfl
  | error fault => rfl

theorem keeps_growth : Keeps holds (growth : Update (Outbreak α γ) α α) := by
  intro outbreak before
  rw [run_growth]
  exact before

/-! ## A cycle -/

/-- A property that neither the generator nor the count of calls bears on. -/
structure Insensible (holds : Outbreak α γ → Prop) : Prop where
  source : ∀ outbreak source, holds outbreak → holds { outbreak with source }
  counter : ∀ outbreak counter, holds outbreak → holds { outbreak with counter }

section Cycle

variable [RandomSource γ α]

/-- Smoke crosses a connection to a region: the connection leads there, it is not blocked, and the
number drawn falls below the chance. -/
structure Crosses (outbreak : Outbreak α γ) (connection : Connection α) (destination : Int) :
    Prop where
  leads : connection.destination = some destination
  passable : connection.index ∉ outbreak.conditions.blocked
  drawn : ∃ chance, outbreak.settings.bound .spreadChance = .ok chance ∧
    (RandomSource.draw outbreak.source : α × γ).1 < chance

/-- The state after one number was drawn. -/
def drawn (outbreak : Outbreak α γ) : Outbreak α γ :=
  { outbreak with source := (RandomSource.draw outbreak.source : α × γ).2 }

/-- What trying a connection comes to: it is passed over, or a number is drawn and smoke crosses or
stays behind. -/
theorem run_tryConnection (outbreak : Outbreak α γ) (connection : Connection α) :
    ExceptT.run (tryConnection connection) outbreak =
      match connection.destination with
      | none => (.ok (), outbreak)
      | some destination =>
        if outbreak.conditions.blocked.contains connection.index then (.ok (), outbreak)
        else
          match outbreak.settings.bound .spreadChance with
          | .error fault => (.error fault, outbreak.drawn)
          | .ok chance =>
            if (RandomSource.draw outbreak.source : α × γ).1 < chance then
              ExceptT.run (arrive destination) outbreak.drawn
            else (.ok (), outbreak.drawn) := by
  unfold tryConnection
  rw [run_get]
  cases connection.destination with
  | none => rfl
  | some destination =>
    dsimp only
    cases outbreak.conditions.blocked.contains connection.index with
    | true => rfl
    | false =>
      have drawing : ∀ next : α → Update (Outbreak α γ) α Unit,
          ExceptT.run (draw >>= next) outbreak =
            ExceptT.run (next (RandomSource.draw outbreak.source : α × γ).1) outbreak.drawn :=
        fun _ => rfl
      rw [if_neg Bool.false_ne_true, if_neg Bool.false_ne_true, drawing, run_bind, run_bound]
      dsimp only [drawn]
      cases outbreak.settings.bound .spreadChance with
      | error fault => rfl
      | ok chance =>
        dsimp only
        split
        · rfl
        · rfl

theorem keeps_tryConnection
    (sourceless : ∀ outbreak source, holds outbreak → holds { outbreak with source })
    {connection : Connection α}
    (arrived : ∀ outbreak destination, holds outbreak → outbreak.Crosses connection destination →
      Keeps holds (arrive destination)) :
    Keeps holds (tryConnection connection : Update (Outbreak α γ) α Unit) := by
  intro outbreak before
  have after : holds outbreak.drawn := sourceless outbreak _ before
  rw [run_tryConnection]
  split
  · exact before
  · rename_i destination leads
    split
    · exact before
    · rename_i passable
      split
      · exact after
      · rename_i chance isChance
        split
        · rename_i low
          refine arrived outbreak destination before ⟨leads, ?_, chance, isChance, low⟩ _ after
          rwa [List.contains_iff_mem] at passable
        · exact after

theorem keeps_spreadFrom {region : Int}
    (grown : Keeps holds (grow region : Update (Outbreak α γ) α Unit))
    (tried : ∀ outbreak, holds outbreak →
      ∀ connections, outbreak.conditions.network.outgoing region = .ok connections →
        ∀ connection ∈ connections, Keeps holds (tryConnection connection)) :
    Keeps holds (spreadFrom region : Update (Outbreak α γ) α Unit) := by
  refine keeps_bind grown fun _ => ?_
  refine keeps_get fun outbreak before => ?_
  split
  · exact keeps_throw _
  · rename_i connections found
    exact keeps_forM (tried outbreak before connections found)

/-- One cycle: every region that holds smoke takes part. -/
def cycle (outbreak : Outbreak α γ) : Update (Outbreak α γ) α PUnit :=
  outbreak.sources.forM spreadFrom

/-- The state in which a cycle begins. -/
def started (outbreak : Outbreak α γ) : Outbreak α γ := { outbreak with counter := 0 }

/-- Whether the next call of the simulation runs a cycle. -/
def isDue (outbreak : Outbreak α γ) : Bool :=
  match outbreak.settings.bound .spreadDelay with
  | .ok delay => !decide (Scalar.ofInt (outbreak.counter + 1 : Nat) < delay)
  | .error _ => false

/-- A call that runs no cycle is counted and does nothing else. -/
theorem run_spread_of_waiting {outbreak : Outbreak α γ} (waiting : outbreak.isDue = false) :
    ExceptT.run spread outbreak =
      ((outbreak.settings.bound .spreadDelay).map fun _ => outbreak.counter + 1,
        { outbreak with counter := outbreak.counter + 1 }) := by
  unfold spread
  rw [run_modify, run_get, run_bind, run_bound]
  unfold isDue at waiting
  dsimp only
  cases delayed : outbreak.settings.bound .spreadDelay with
  | error fault => rfl
  | ok delay =>
    rw [delayed] at waiting
    have early : Scalar.ofInt (outbreak.counter + 1 : Nat) < delay := by
      simpa using waiting
    dsimp only
    rw [if_pos early]
    rfl

/-- A call that runs a cycle starts to count anew. -/
theorem run_spread_of_due {outbreak : Outbreak α γ} (due : outbreak.isDue = true) :
    ExceptT.run spread outbreak =
      ((ExceptT.run outbreak.started.cycle outbreak.started).1.map fun _ => 0,
        (ExceptT.run outbreak.started.cycle outbreak.started).2) := by
  unfold spread
  rw [run_modify, run_get, run_bind, run_bound]
  unfold isDue at due
  dsimp only
  cases delayed : outbreak.settings.bound .spreadDelay with
  | error fault =>
    rw [delayed] at due
    cases due
  | ok delay =>
    rw [delayed] at due
    have late : ¬ Scalar.ofInt (outbreak.counter + 1 : Nat) < delay := by
      simpa using due
    dsimp only
    have same : ({ outbreak with counter := outbreak.counter + 1 } : Outbreak α γ).sources =
        outbreak.started.sources := rfl
    have begun : ({ outbreak with counter := 0 } : Outbreak α γ) = outbreak.started := rfl
    rw [if_neg late, run_modify, run_bind, same, ← cycle]
    dsimp only
    rw [begun]
    rcases ExceptT.run outbreak.started.cycle outbreak.started with ⟨fault | value, after⟩
    · rfl
    · rfl

/-- What a cycle and counting keep, a call of the simulation keeps. -/
theorem keeps_spread_of_cycle
    (counterless : ∀ outbreak counter, holds outbreak → holds { outbreak with counter })
    (cycled : ∀ outbreak, holds outbreak → Keeps holds outbreak.cycle) :
    Keeps holds (spread : Update (Outbreak α γ) α Nat) := by
  intro outbreak before
  cases due : outbreak.isDue with
  | false =>
    rw [run_spread_of_waiting due]
    exact counterless _ _ before
  | true =>
    rw [run_spread_of_due due]
    exact cycled outbreak.started (counterless _ _ before) _ (counterless _ _ before)

/-- What draws, growing and arriving smoke keep, a cycle keeps. -/
theorem keeps_cycle_of
    (sourceless : ∀ outbreak source, holds outbreak → holds { outbreak with source })
    (grown : ∀ region, Keeps holds (grow region : Update (Outbreak α γ) α Unit))
    (arrived : ∀ region, Keeps holds (arrive region : Update (Outbreak α γ) α Unit))
    (outbreak : Outbreak α γ) : Keeps holds outbreak.cycle := by
  refine keeps_forM fun region _ => ?_
  refine keeps_spreadFrom (grown region) fun _ _ connections _ connection _ => ?_
  exact keeps_tryConnection sourceless fun _ destination _ _ => arrived destination

/-- What growing and arriving smoke keep, spreading keeps. -/
theorem keeps_spread_of (insensible : Insensible holds)
    (grown : ∀ region, Keeps holds (grow region : Update (Outbreak α γ) α Unit))
    (arrived : ∀ region, Keeps holds (arrive region : Update (Outbreak α γ) α Unit)) :
    Keeps holds (spread : Update (Outbreak α γ) α Nat) :=
  keeps_spread_of_cycle insensible.counter fun outbreak _ =>
    keeps_cycle_of insensible.source grown arrived outbreak

end Cycle

/-! ## The network -/

/-- The conditions are kept for a network. -/
def Watches (network : Network α) (outbreak : Outbreak α γ) : Prop :=
  outbreak.conditions.network = network

variable {network : Network α} {outbreak after : Outbreak α γ}

theorem watches_ignite {reference : Int} {density : Option (Value α)}
    (watches : outbreak.Watches network) (done : outbreak.ignite reference density = .ok after) :
    after.Watches network := by
  rcases bind_eq_ok.mp done with ⟨region, -, rest⟩
  dsimp only at rest
  split at rest
  · split at rest
    · cases rest
      exact watches
    · cases rest
  · cases rest

omit [Scalar α] in
/-- What an operation on the conditions keeps, it keeps in the outbreak. -/
theorem watches_onConditions {change : Conditions α → Except (Fault α) (Conditions α)}
    (kept : ∀ {before after}, change before = .ok after → after.network = before.network)
    (watches : outbreak.Watches network) (done : outbreak.onConditions change = .ok after) :
    after.Watches network := by
  rcases bind_eq_ok.mp done with ⟨conditions, changed, same⟩
  cases same
  exact (kept changed).trans watches

theorem keeps_grow (region : Int) :
    Keeps (Watches network) (grow region : Update (Outbreak α γ) α Unit) := by
  refine keeps_get fun outbreak watches => ?_
  refine keeps_bind keeps_growth fun growth => ?_
  exact keeps_set watches

theorem keeps_arrive (region : Int) :
    Keeps (Watches network) (arrive region : Update (Outbreak α γ) α Unit) := by
  refine keeps_get fun outbreak watches => ?_
  refine keeps_bind (keeps_bound _) fun fresh => ?_
  exact keeps_set watches

theorem keeps_spread [RandomSource γ α] :
    Keeps (Watches network) (spread : Update (Outbreak α γ) α Nat) :=
  keeps_spread_of ⟨fun _ _ watches => watches, fun _ _ watches => watches⟩ keeps_grow keeps_arrive

end Outbreak

end Egress
