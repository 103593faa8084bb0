import Egress.Proofs.Diffusion

/-!
# An outbreak through any requests

Whatever is asked of an outbreak, and whether it is granted or refused, its state stays in order:
densities lie between zero and one and belong to regions of the network, blocked connections are
connections of the network, and calls of the simulation are counted round and round, as many as make
one cycle.  Only a reset makes smoke thinner.

A request that is refused for a bad value has changed nothing.  A call of the simulation may fail in
the middle and leave what it had done, but then some setting is no number, which is a fault of
another kind.
-/

namespace Egress

open Scalar

variable {α γ : Type}

/-- An integer is a number to compare with. -/
theorem Value.number?_of_integer? [Scalar α] {value : Value α} {number : Int}
    (isInteger : value.integer? = some number) : value.number? = some (ofInt number) := by
  cases value with
  | bool flag => exact congrArg (Option.map ofInt) isInteger
  | int integer => exact congrArg (Option.map ofInt) isInteger
  | null | real _ | text _ | bytes _ | moment _ | list _ | mapping _ | endless => cases isInteger

namespace Outbreak

open Update

/-! ## Requests -/

/-- What may be asked of an outbreak: a call, or to start over with the generator of a seed. -/
inductive Request (α γ : Type) where
  | call (call : Call α γ)
  | seed (given : Option Int)

namespace Request

def isSpread : Request α γ → Bool
  | .call .spread => true
  | _ => false

def isReset : Request α γ → Bool
  | .call .reset => true
  | _ => false

theorem eq_spread_of_isSpread {request : Request α γ} (spreads : request.isSpread = true) :
    request = .call .spread := by
  unfold isSpread at spreads
  split at spreads
  · rfl
  · cases spreads

end Request

/-- How many calls of the simulation were made since the last reset. -/
def sinceReset (requests : List (Request α γ)) : Nat :=
  (requests.reverse.takeWhile fun request => !request.isReset).countP Request.isSpread

theorem sinceReset_append_singleton (requests : List (Request α γ)) (request : Request α γ) :
    sinceReset (requests ++ [request]) =
      if request.isReset then 0
      else sinceReset requests + if request.isSpread then 1 else 0 := by
  unfold sinceReset
  rw [List.reverse_append, List.reverse_singleton, List.singleton_append, List.takeWhile_cons]
  cases request.isReset with
  | true => rfl
  | false =>
    rw [Bool.not_false, if_pos rfl, List.countP_cons]
    rfl

section Serving

variable [Scalar α] [RandomSource γ α] [SeededSource γ]

/-- Answer a request. -/
def serve (outbreak : Outbreak α γ) :
    Request α γ → Outbreak α γ × Except (Fault α) (Option Nat)
  | .call call => outbreak.perform call
  | .seed given => outbreak.attempt (outbreak.seed given)

/-- Answer requests one after another, whether they are granted or not. -/
def serveAll (outbreak : Outbreak α γ) (requests : List (Request α γ)) : Outbreak α γ :=
  requests.foldl (fun outbreak request => (outbreak.serve request).1) outbreak

theorem serveAll_append_singleton (outbreak : Outbreak α γ) (requests : List (Request α γ))
    (request : Request α γ) :
    outbreak.serveAll (requests ++ [request]) = ((outbreak.serveAll requests).serve request).1 := by
  unfold serveAll
  rw [List.foldl_append]
  rfl

/-- What every request keeps, any requests keep. -/
theorem serveAll_keeps (holds : Outbreak α γ → Prop)
    (kept : ∀ outbreak request, holds outbreak → holds (outbreak.serve request).1)
    {outbreak : Outbreak α γ} (before : holds outbreak) (requests : List (Request α γ)) :
    holds (outbreak.serveAll requests) := by
  induction requests generalizing outbreak with
  | nil => exact before
  | cons request rest hypothesis => exact hypothesis (kept outbreak request before)

variable {outbreak after : Outbreak α γ} {settings : Settings α} {network : Network α}

omit [Scalar α] [RandomSource γ α] in
/-- Seeding touches the generator only. -/
theorem seed_eq_ok {given : Option Int} (done : outbreak.seed given = .ok after) :
    ∃ source, after = outbreak.reseed source := by
  unfold seed at done
  split at done
  · cases done
    exact ⟨outbreak.source, rfl⟩
  · split at done
    · rename_i source _
      cases done
      exact ⟨source, rfl⟩
    · cases done

omit [RandomSource γ α] [SeededSource γ] in
/-- Smoke that is started is written to a region of the network, unless it is denser there. -/
theorem ignite_eq_ok {reference : Int} {density : Option (Value α)}
    (done : outbreak.ignite reference density = .ok after) :
    ∃ level, outbreak.conditions.network.Holds reference ∧
      (density.getD (outbreak.settings.value .firstDensity)).number? = some level ∧
      Moderate level ∧
      after = outbreak.filled reference (larger (outbreak.present reference) level) := by
  rcases bind_eq_ok.mp done with ⟨region, isRegion, rest⟩
  unfold Conditions.regionIndex at isRegion
  split at isRegion
  · rename_i inside
    cases isRegion
    dsimp only at rest
    rw [Int.toNat_of_nonneg inside.1] at rest
    split at rest
    · rename_i level isLevel
      split at rest
      · rename_i moderate
        cases rest
        exact ⟨level, inside, isLevel, moderate, rfl⟩
      · cases rest
    · cases rest
  · cases isRegion

omit [RandomSource γ α] [SeededSource γ] in
/-- A density between zero and one can be started in every region of the network. -/
theorem ignite_ok {reference : Int} {density : Option (Value α)} {level : α}
    (inside : outbreak.conditions.network.Holds reference)
    (isLevel : (density.getD (outbreak.settings.value .firstDensity)).number? = some level)
    (moderate : Moderate level) :
    outbreak.ignite reference density =
      .ok (outbreak.filled reference (larger (outbreak.present reference) level)) := by
  have isRegion : outbreak.conditions.regionIndex reference = .ok reference.toNat := if_pos inside
  simp only [ignite, isRegion, bind, Except.bind, isLevel]
  rw [if_pos ⟨moderate.1, moderate.2⟩, Int.toNat_of_nonneg inside.1]
  rfl

/-! ## What is kept -/

theorem Tempered.serve [LawfulDensities α] (tempered : Tempered settings outbreak)
    (request : Request α γ) : Tempered settings (outbreak.serve request).1 := by
  cases request with
  | call call => exact tempered.perform call
  | seed given =>
    refine attempt_keeps _ tempered fun {after} done => ?_
    rcases seed_eq_ok done with ⟨source, rfl⟩
    exact ⟨tempered.given, tempered.grows, tempered.bounded⟩

/-- Whatever the requests, densities stay in their bounds if smoke does not shrink. -/
theorem tempered_serveAll [LawfulDensities α] (network : Network α) (source : γ)
    (grows : ∀ growth, settings.number .growth = .ok growth → ¬ growth < zero)
    (requests : List (Request α γ)) :
    Tempered settings ((ofNetwork network settings source).serveAll requests) :=
  serveAll_keeps (Tempered settings) (fun _ request tempered => tempered.serve request)
    ⟨rfl, grows, fun _ _ found => by cases found⟩ requests

/-- Smoke is in regions of the network, and connections of the network are blocked. -/
structure Housed (network : Network α) (outbreak : Outbreak α γ) : Prop where
  watches : outbreak.Watches network
  smoke : ∀ region ∈ outbreak.conditions.smoke.keys, network.Holds region
  blocked : ∀ index ∈ outbreak.conditions.blocked, index < network.connections.length

namespace Housed

omit [RandomSource γ α] [SeededSource γ] in
theorem ignite (housed : Housed network outbreak) {reference : Int} {density : Option (Value α)}
    (done : outbreak.ignite reference density = .ok after) : Housed network after := by
  rcases ignite_eq_ok done with ⟨level, inside, -, -, rfl⟩
  have same : outbreak.conditions.network = network := housed.watches
  rw [same] at inside
  refine ⟨housed.watches, fun other held => ?_, housed.blocked⟩
  rcases mem_keys_filled.mp held with rfl | earlier
  · exact inside
  · exact housed.smoke other earlier

omit [Scalar α] [RandomSource γ α] [SeededSource γ] in
theorem block (housed : Housed network outbreak) {reference : Int}
    (done : outbreak.onConditions (fun conditions => conditions.block reference) = .ok after) :
    Housed network after := by
  rcases bind_eq_ok.mp done with ⟨conditions, changed, same⟩
  cases same
  rcases bind_eq_ok.mp changed with ⟨index, isIndex, rest⟩
  unfold Conditions.connectionIndex at isIndex
  split at isIndex
  · rename_i inside
    cases isIndex
    have same : outbreak.conditions.network = network := housed.watches
    rw [same] at inside
    split at rest
    · cases rest
      exact ⟨housed.watches, housed.smoke, housed.blocked⟩
    · cases rest
      refine ⟨housed.watches, housed.smoke, fun other isBlocked => ?_⟩
      rcases List.mem_append.mp isBlocked with earlier | last
      · exact housed.blocked other earlier
      · rw [List.mem_singleton.mp last]
        omega
  · cases isIndex

omit [Scalar α] [RandomSource γ α] [SeededSource γ] in
theorem unblock (housed : Housed network outbreak) {reference : Int}
    (done : outbreak.onConditions (fun conditions => conditions.unblock reference) = .ok after) :
    Housed network after := by
  rcases bind_eq_ok.mp done with ⟨conditions, changed, same⟩
  cases same
  rcases bind_eq_ok.mp changed with ⟨index, -, rest⟩
  cases rest
  exact ⟨housed.watches, housed.smoke,
    fun other isBlocked => housed.blocked other (List.mem_of_mem_filter isBlocked)⟩

omit [SeededSource γ] in
theorem spread (formed : network.WellFormed) (housed : Housed network outbreak) :
    Housed network (outbreak.perform .spread).1 := by
  have same : outbreak.conditions.network = network := housed.watches
  have spreads := spreads_call outbreak
  refine ⟨spreads.network.trans housed.watches, fun region held => ?_,
    spreads.blocked ▸ housed.blocked⟩
  rcases mem_keys_of_call held with before | ⟨-, connection, member, -, between, -, crosses⟩
  · exact housed.smoke region before
  · exact formed.destination_lt connection (same ▸ member) region crosses.leads

theorem serve (formed : network.WellFormed) (housed : Housed network outbreak)
    (request : Request α γ) : Housed network (outbreak.serve request).1 := by
  cases request with
  | seed given =>
    refine attempt_keeps _ housed fun {after} done => ?_
    rcases seed_eq_ok done with ⟨source, rfl⟩
    exact ⟨housed.watches, housed.smoke, housed.blocked⟩
  | call call =>
    cases call with
    | ignite reference density => exact attempt_keeps _ housed housed.ignite
    | spread => exact housed.spread formed
    | block reference => exact attempt_keeps _ housed housed.block
    | unblock reference => exact attempt_keeps _ housed housed.unblock
    | reset => exact ⟨housed.watches, nofun, nofun⟩
    | reseed source => exact ⟨housed.watches, housed.smoke, housed.blocked⟩

end Housed

omit [Scalar α] [RandomSource γ α] [SeededSource γ] in
theorem housed_ofNetwork (network : Network α) (settings : Settings α) (source : γ) :
    Housed network (ofNetwork network settings source) :=
  ⟨rfl, fun _ held => absurd held List.not_mem_nil, fun _ held => absurd held List.not_mem_nil⟩

/-- Whatever the requests, smoke is in regions of the network, and its connections are blocked. -/
theorem housed_serveAll (formed : network.WellFormed) (settings : Settings α) (source : γ)
    (requests : List (Request α γ)) :
    Housed network ((ofNetwork network settings source).serveAll requests) :=
  serveAll_keeps (Housed network) (fun _ request housed => housed.serve formed request)
    (housed_ofNetwork network settings source) requests

/-! ## How calls are counted -/

omit [SeededSource γ] in
/-- A cycle does not count. -/
theorem counter_cycle (outbreak : Outbreak α γ) :
    (ExceptT.run outbreak.cycle outbreak).2.counter = outbreak.counter := by
  have kept : Keeps (fun after : Outbreak α γ => after.counter = outbreak.counter)
      outbreak.cycle := by
    refine keeps_cycle_of (fun _ _ => id) (fun region after same => ?_)
      (fun region after same => ?_) outbreak
    · rw [run_grow]
      split
      · exact same
      · exact same
    · rw [run_arrive]
      split
      · exact same
      · exact same
  exact kept outbreak rfl

omit [SeededSource γ] in
/-- A call of the simulation is counted, or it begins to count anew. -/
theorem counter_spread (outbreak : Outbreak α γ) :
    (outbreak.perform .spread).1.counter =
      if outbreak.isDue then 0 else outbreak.counter + 1 := by
  cases due : outbreak.isDue with
  | false =>
    rw [perform_spread_of_waiting due]
    rfl
  | true =>
    rw [perform_spread_of_due due]
    exact counter_cycle outbreak.started

/-- Other requests do not count, except that a reset begins to count anew. -/
theorem counter_serve {request : Request α γ} (notSpread : request.isSpread = false) :
    (outbreak.serve request).1.counter = if request.isReset then 0 else outbreak.counter := by
  have untouched : ∀ {change : Conditions α → Except (Fault α) (Conditions α)} {after},
      outbreak.onConditions change = .ok after → after.counter = outbreak.counter := by
    intro change after done
    rcases bind_eq_ok.mp done with ⟨conditions, -, same⟩
    cases same
    rfl
  cases request with
  | seed given =>
    refine attempt_keeps (·.counter = outbreak.counter) rfl fun {after} done => ?_
    rcases seed_eq_ok done with ⟨source, rfl⟩
    rfl
  | call call =>
    cases call with
    | ignite reference density =>
      refine attempt_keeps (·.counter = outbreak.counter) rfl fun {after} done => ?_
      rcases ignite_eq_ok done with ⟨level, -, -, -, rfl⟩
      rfl
    | spread => cases notSpread
    | block reference => exact attempt_keeps (·.counter = outbreak.counter) rfl untouched
    | unblock reference => exact attempt_keeps (·.counter = outbreak.counter) rfl untouched
    | reset => rfl
    | reseed source => rfl

omit [SeededSource γ] in
theorem returned_spread {count : Nat}
    (returned : (outbreak.perform .spread).2 = .ok (some count)) :
    count = (outbreak.perform .spread).1.counter := by
  rw [counter_spread]
  cases due : outbreak.isDue with
  | false =>
    rw [perform_spread_of_waiting due] at returned
    cases delayed : outbreak.settings.bound .spreadDelay with
    | error fault =>
      rw [delayed] at returned
      cases returned
    | ok delay =>
      rw [delayed] at returned
      cases returned
      rfl
  | true =>
    rw [perform_spread_of_due due] at returned
    cases result : (ExceptT.run outbreak.started.cycle outbreak.started).1 with
    | error fault =>
      rw [result] at returned
      cases returned
    | ok value =>
      rw [result] at returned
      cases returned
      rfl

/-- A number that is returned is the count. -/
theorem returned_serve {request : Request α γ} {count : Nat}
    (returned : (outbreak.serve request).2 = .ok (some count)) :
    count = (outbreak.serve request).1.counter := by
  have nothing : ∀ {made : Except (Fault α) (Outbreak α γ)},
      (outbreak.attempt made).2 ≠ .ok (some count) := by
    intro made
    cases made <;> nofun
  cases request with
  | seed given => exact absurd returned nothing
  | call call =>
    cases call with
    | spread => exact returned_spread returned
    | ignite _ _ | block _ | unblock _ => exact absurd returned nothing
    | reset | reseed _ => cases returned

/-! ## How requests fail -/

/-- A fault of another kind than a bad value. -/
def Unblamed (fault : Fault α) : Prop := fault.kind ≠ .badValue

omit [RandomSource γ α] [SeededSource γ] in
theorem bound_fails (settings : Settings α) (name : Setting) :
    FailsWith Unblamed (settings.bound name) := by
  unfold Settings.bound
  split
  · exact .ok _
  · exact .error (by rintro ⟨⟩)

omit [RandomSource γ α] [SeededSource γ] in
theorem number_fails (settings : Settings α) (name : Setting) :
    FailsWith Unblamed (settings.number name) :=
  Value.number_fails (by rintro ⟨⟩) (by rintro ⟨⟩) (settings.value name)

omit [SeededSource γ] in
theorem tryConnection_fails (connection : Connection α) (outbreak : Outbreak α γ) :
    FailsWith Unblamed (ExceptT.run (tryConnection connection) outbreak).1 := by
  have arrival : ∀ destination (after : Outbreak α γ),
      FailsWith Unblamed (ExceptT.run (arrive destination) after).1 := by
    intro destination after
    rw [run_arrive]
    have reading := bound_fails after.settings .firstDensity
    cases isFresh : after.settings.bound .firstDensity with
    | error fault => exact .error (reading fault isFresh)
    | ok fresh => exact .ok _
  have reading := bound_fails outbreak.settings .spreadChance
  rw [run_tryConnection]
  split
  · exact .ok _
  · split
    · exact .ok _
    · split
      · rename_i fault isChance
        exact .error (reading fault isChance)
      · split
        · exact arrival _ _
        · exact .ok _

omit [Scalar α] [RandomSource γ α] [SeededSource γ] in
/-- A traversal fails as one of its visits does. -/
theorem forM_fails {β : Type} {admitted : Fault α → Prop} {items : List β}
    {visit : β → Update (Outbreak α γ) α PUnit}
    (each : ∀ item ∈ items, ∀ outbreak, FailsWith admitted (ExceptT.run (visit item) outbreak).1)
    (outbreak : Outbreak α γ) : FailsWith admitted (ExceptT.run (items.forM visit) outbreak).1 := by
  induction items generalizing outbreak with
  | nil => exact .ok _
  | cons item rest hypothesis =>
    have first := each item List.mem_cons_self outbreak
    rw [run_forM_cons]
    rcases ran : ExceptT.run (visit item) outbreak with ⟨fault | value, between⟩
    · rw [ran] at first
      exact .error (first fault rfl)
    · exact hypothesis (fun other member => each other (List.mem_cons_of_mem _ member)) between

omit [SeededSource γ] in
theorem spreadFrom_fails (region : Int) (outbreak : Outbreak α γ) :
    FailsWith Unblamed (ExceptT.run (spreadFrom region) outbreak).1 := by
  have reading := number_fails outbreak.settings .growth
  rw [run_spreadFrom]
  cases isGrowth : outbreak.settings.number .growth with
  | error fault => exact .error (reading fault isGrowth)
  | ok growth =>
    dsimp only
    unfold Network.outgoing Network.indexOf
    split
    · rename_i fault missing
      split at missing
      · cases missing
      · cases missing
        exact .error (by rintro ⟨⟩)
    · exact forM_fails (fun connection _ => tryConnection_fails connection) _

omit [SeededSource γ] in
/-- A call of the simulation does not fail for a bad value. -/
theorem spread_fails (outbreak : Outbreak α γ) :
    FailsWith Unblamed (outbreak.perform .spread).2 := by
  cases due : outbreak.isDue with
  | false =>
    rw [perform_spread_of_waiting due]
    exact (bound_fails outbreak.settings .spreadDelay).map _
  | true =>
    rw [perform_spread_of_due due]
    refine FailsWith.map ?_ _
    exact forM_fails (fun region _ => spreadFrom_fails region) outbreak.started

/-- A request that is refused for a bad value changes nothing. -/
theorem serve_of_badValue {request : Request α γ} {fault : Fault α}
    (refused : (outbreak.serve request).2 = .error fault) (bad : fault.kind = .badValue) :
    (outbreak.serve request).1 = outbreak := by
  have untouched : ∀ {made : Except (Fault α) (Outbreak α γ)},
      (outbreak.attempt made).2 = .error fault → (outbreak.attempt made).1 = outbreak := by
    intro made failed
    cases made with
    | ok after => cases failed
    | error other => rfl
  cases request with
  | seed given => exact untouched refused
  | call call =>
    cases call with
    | ignite reference density => exact untouched refused
    | spread => exact absurd bad (spread_fails outbreak fault refused)
    | block reference => exact untouched refused
    | unblock reference => exact untouched refused
    | reset => cases refused
    | reseed source => cases refused

end Serving

/-! ## How smoke changes -/

section Rational

variable {outbreak before after : Outbreak Rat γ} {settings : Settings Rat}

/-- In no region has smoke become thinner. -/
def Denser (before after : Outbreak Rat γ) : Prop :=
  ∀ region, before.present region ≤ after.present region

/-- A region filled with what is no less than before. -/
theorem Denser.filled (denser : Denser before outbreak) {region : Int} {density : Rat}
    (least : outbreak.present region ≤ density) :
    Denser before (outbreak.filled region density) := by
  intro other
  rw [present_filled]
  split
  · rename_i same
    exact (denser other).trans (same ▸ least)
  · exact denser other

theorem le_larger_left (first second : Rat) : first ≤ larger first second := by
  rw [larger_eq_max]
  exact le_max_left _ _

theorem le_smaller_one {first second : Rat} (atMost : first ≤ 1) (less : first ≤ second) :
    first ≤ smaller one second := by
  rw [smaller_eq_min]
  exact le_min atMost less

/-- Growth and arriving smoke make no region thinner. -/
theorem denser_spread [RandomSource γ Rat] (tempered : Tempered settings outbreak) :
    Denser outbreak (outbreak.perform .spread).1 := by
  have kept : Keeps (fun after => Tempered settings after ∧ Denser outbreak after)
      (spread : Update (Outbreak Rat γ) Rat Nat) := by
    refine keeps_spread_of ⟨?_, ?_⟩ (fun region => ?_) fun region => ?_
    · intro after source both
      exact ⟨⟨both.1.given, both.1.grows, both.1.bounded⟩, both.2⟩
    · intro after counter both
      exact ⟨⟨both.1.given, both.1.grows, both.1.bounded⟩, both.2⟩
    · rintro after ⟨tempered, denser⟩
      refine ⟨Tempered.keeps_grow region after tempered, ?_⟩
      rw [run_grow, tempered.given]
      cases isGrowth : settings.number .growth with
      | error fault => exact denser
      | ok growth =>
        have nonneg : 0 ≤ growth := not_lt.mp (tempered.grows growth isGrowth)
        refine denser.filled (le_smaller_one (tempered.bounded.moderate_present region).2 ?_)
        exact le_add_of_nonneg_right nonneg
    · rintro after ⟨tempered, denser⟩
      refine ⟨Tempered.keeps_arrive region after tempered, ?_⟩
      rw [run_arrive]
      cases after.settings.bound .firstDensity with
      | error fault => exact denser
      | ok fresh =>
        exact denser.filled (le_smaller_one (tempered.bounded.moderate_present region).2
          (le_larger_left _ _))
  exact (kept outbreak ⟨tempered, fun _ => le_rfl⟩).2

/-- Only a reset makes smoke thinner. -/
theorem denser_serve [RandomSource γ Rat] [SeededSource γ] (tempered : Tempered settings outbreak)
    {request : Request Rat γ} (notReset : request.isReset = false) :
    Denser outbreak (outbreak.serve request).1 := by
  have unchanged : Denser outbreak outbreak := fun _ => le_rfl
  have same : ∀ {change : Conditions Rat → Except (Fault Rat) (Conditions Rat)} {after},
      (∀ {before after}, change before = .ok after → after.smoke = before.smoke) →
        outbreak.onConditions change = .ok after → Denser outbreak after := by
    intro change after kept done region
    rcases bind_eq_ok.mp done with ⟨conditions, changed, same⟩
    cases same
    unfold present
    rw [kept changed]
  cases request with
  | seed given =>
    refine attempt_keeps (Denser outbreak) unchanged fun {after} done => ?_
    rcases seed_eq_ok done with ⟨source, rfl⟩
    exact fun _ => le_rfl
  | call call =>
    cases call with
    | ignite reference density =>
      refine attempt_keeps (Denser outbreak) unchanged fun {after} done => ?_
      rcases ignite_eq_ok done with ⟨level, -, -, -, rfl⟩
      exact Denser.filled (fun _ => le_rfl) (le_larger_left _ _)
    | spread => exact denser_spread tempered
    | block reference => exact attempt_keeps _ unchanged (same Conditions.smoke_of_block)
    | unblock reference => exact attempt_keeps _ unchanged (same Conditions.smoke_of_unblock)
    | reset => cases notReset
    | reseed source => exact fun _ => le_rfl

/-! ## The count of calls -/

/-- Whether a cycle is due, where the delay is an integer. -/
theorem isDue_iff [RandomSource γ Rat] {delay : Int}
    (delayed : (outbreak.settings.value .spreadDelay).integer? = some delay) :
    outbreak.isDue = true ↔ delay ≤ outbreak.counter + 1 := by
  have isBound : outbreak.settings.bound .spreadDelay = .ok (delay : Rat) := by
    unfold Settings.bound
    rw [Value.number?_of_integer? delayed]
    rfl
  unfold isDue
  rw [isBound]
  have cast : (Scalar.ofInt (outbreak.counter + 1 : Nat) : Rat) =
      ((outbreak.counter + 1 : Int) : Rat) := rfl
  rw [cast, Bool.not_eq_true', decide_eq_false_iff_not, not_lt, Int.cast_le]

/-- How many calls of the simulation make one cycle: a delay below one is a delay of one. -/
def period (delay : Int) : Nat := (max 1 delay).toNat

theorem period_pos (delay : Int) : 0 < period delay := by
  unfold period
  omega

/-- One request more keeps the count what it is to be. -/
theorem counter_step [RandomSource γ Rat] [SeededSource γ] {delay : Int}
    (delayed : (outbreak.settings.value .spreadDelay).integer? = some delay)
    {requests : List (Request Rat γ)}
    (counted : outbreak.counter = sinceReset requests % period delay) (request : Request Rat γ) :
    (outbreak.serve request).1.counter = sinceReset (requests ++ [request]) % period delay := by
  have below := Nat.mod_lt (sinceReset requests) (period_pos delay)
  rw [sinceReset_append_singleton]
  cases isSpread : request.isSpread with
  | false =>
    rw [counter_serve isSpread, counted]
    cases request.isReset with
    | false => rfl
    | true => exact (Nat.zero_mod _).symm
  | true =>
    rw [Request.eq_spread_of_isSpread isSpread]
    change (outbreak.perform .spread).1.counter = (sinceReset requests + 1) % period delay
    rw [counter_spread, ← Nat.mod_add_mod, ← counted]
    rw [← counted] at below
    cases due : outbreak.isDue with
    | true =>
      have full : outbreak.counter + 1 = period delay := by
        have late := (isDue_iff delayed).mp due
        unfold period at below ⊢
        omega
      rw [full, Nat.mod_self, if_pos rfl]
    | false =>
      have short : outbreak.counter + 1 < period delay := by
        have early : ¬ delay ≤ outbreak.counter + 1 := fun late =>
          Bool.false_ne_true (due.symm.trans ((isDue_iff delayed).mpr late))
        unfold period
        omega
      rw [Nat.mod_eq_of_lt short, if_neg Bool.false_ne_true]

/-- Where the delay is an integer, the count is that of the calls since the last reset, round and
round. -/
theorem counter_serveAll [RandomSource γ Rat] [SeededSource γ] {network : Network Rat}
    {delay : Int} (delayed : (settings.value .spreadDelay).integer? = some delay)
    (grows : ∀ growth, settings.number .growth = .ok growth → ¬ growth < zero) (source : γ)
    (requests : List (Request Rat γ)) :
    ((ofNetwork network settings source).serveAll requests).counter =
      sinceReset requests % period delay := by
  induction requests using List.reverseRecOn with
  | nil => exact (Nat.zero_mod _).symm
  | append_singleton requests request hypothesis =>
    have given := (tempered_serveAll network source grows requests).given
    rw [serveAll_append_singleton]
    exact counter_step (given.symm ▸ delayed) hypothesis request

/-! ## The outbreak in order -/

/-- Through any requests, granted or refused, densities stay between zero and one and in regions of
the network, blocked connections are connections of the network, and the count is that of the calls
of the simulation since the last reset, round and round.  The next request makes no smoke thinner
unless it is a reset, returns no other count, and changes nothing if it is refused for a bad
value. -/
theorem stays_in_order [RandomSource γ Rat] [SeededSource γ] {network : Network Rat}
    (formed : network.WellFormed) {growth : Rat} (grows : settings.number .growth = .ok growth)
    (nonneg : 0 ≤ growth) {delay : Int}
    (delayed : (settings.value .spreadDelay).integer? = some delay) (source : γ)
    (requests : List (Request Rat γ)) :
    let outbreak := (ofNetwork network settings source).serveAll requests
    (∀ region density, outbreak.conditions.smoke.find? region = some density →
      0 ≤ density ∧ density ≤ 1 ∧ network.Holds region) ∧
    (∀ index ∈ outbreak.conditions.blocked, index < network.connections.length) ∧
    outbreak.counter = sinceReset requests % period delay ∧
    ∀ request,
      (request.isReset = false →
        ∀ region, outbreak.present region ≤ (outbreak.serve request).1.present region) ∧
      (∀ count, (outbreak.serve request).2 = .ok (some count) →
        count = sinceReset (requests ++ [request]) % period delay) ∧
      (∀ fault, (outbreak.serve request).2 = .error fault → fault.kind = .badValue →
        (outbreak.serve request).1 = outbreak) := by
  intro outbreak
  have least : ∀ other, settings.number .growth = .ok other → ¬ other < zero := by
    intro other isOther
    cases grows.symm.trans isOther
    exact not_lt.mpr nonneg
  have tempered := tempered_serveAll network source least requests
  have housed := housed_serveAll formed settings source requests
  have counted : outbreak.counter = sinceReset requests % period delay :=
    counter_serveAll delayed least source requests
  refine ⟨fun region density found => ?_, housed.blocked, counted, fun request => ⟨?_, ?_, ?_⟩⟩
  · have moderate := tempered.bounded region density found
    exact ⟨moderate.1, moderate.2, housed.smoke region (Table.mem_keys_iff.mpr ⟨density, found⟩)⟩
  · exact denser_serve tempered
  · intro count returned
    rw [returned_serve returned]
    exact counter_step (tempered.given.symm ▸ delayed) counted request
  · exact fun fault => serve_of_badValue

/-- Smoke in the first room of the row, a door that is blocked, and two calls of the simulation. -/
def rowRequests : List (Request Rat Twister) :=
  [.call (.ignite 0 none), .call (.block 0), .call .spread, .call .reset, .call (.ignite 1 none),
    .call .spread, .seed (some 3), .call .spread]

theorem stays_in_order_in_row :
    let outbreak :=
      (ofNetwork Building.rowNetwork Settings.defaults (Twister.ofSeed 0)).serveAll rowRequests
    outbreak.counter = 2 ∧
    (∀ region, outbreak.present region ≤ (outbreak.serve (.call .spread)).1.present region) ∧
    (outbreak.serve (.seed (some (-1)))).1 = outbreak := by
  have grows : (Settings.defaults : Settings Rat).number .growth = .ok (Scalar.decimal 1 true 1) :=
    rfl
  rcases stays_in_order Building.row_priced.formed grows (by decide +kernel) rfl (Twister.ofSeed 0)
    rowRequests with ⟨-, -, counted, onward⟩
  exact ⟨counted, (onward (.call .spread)).1 rfl,
    (onward (.seed (some (-1)))).2.2 .seedOutOfRange rfl rfl⟩

end Rational

end Outbreak

end Egress
