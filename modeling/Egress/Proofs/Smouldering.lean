import Egress.Proofs.Arrivals
import Egress.Proofs.Doubles.Order

/-!
# No smoke without smoke

After a call of the simulation there is smoke only where a density was written before the call, and
behind unblocked connections that leave such regions.  A density that was written may be zero, and
then it grows like any other, so smoke can come up where there was none.  This happens only where
smoke was started at density zero, or where the settings let smoke arrive at no density above zero,
or shrink.  Otherwise every density that is written is above zero, and smoke comes from smoke.
-/

namespace Egress

open Scalar

/-- What smoke that grows asks of arithmetic. -/
class LawfulSmoke (α : Type) [Scalar α] : Prop where
  not_pos_zero : ¬ (zero : α) < zero
  pos_one : (zero : α) < one
  /-- Growth that is not below zero does not make smoke vanish. -/
  pos_add {density growth : α} :
    zero < density → ¬ growth < zero → density + growth < one → zero < density + growth

instance : LawfulSmoke Rat where
  not_pos_zero := by decide +kernel
  pos_one := by decide +kernel
  pos_add above grows _ := add_pos_of_pos_of_nonneg above (not_lt.mp grows)

instance : LawfulSmoke Float where
  not_pos_zero := by decide +kernel
  pos_one := by decide +kernel
  pos_add := Doubles.pos_of_grown

namespace Outbreak

open Update

variable {α γ : Type} [Scalar α] [RandomSource γ α] {settings : Settings α}
  {network : Network α} {outbreak before after : Outbreak α γ} {region : Int}

/-- There is smoke in a region. -/
def Smoky (outbreak : Outbreak α γ) (region : Int) : Prop := zero < outbreak.present region

omit [RandomSource γ α] in
/-- Where there is smoke, a density was written. -/
theorem Smoky.mem_keys [LawfulSmoke α] (smoky : outbreak.Smoky region) :
    region ∈ outbreak.conditions.smoke.keys := by
  by_contra absent
  unfold Smoky present at smoky
  rw [(Table.find?_eq_none_iff _ _).mpr absent] at smoky
  exact LawfulSmoke.not_pos_zero smoky

/-- Smoke that is started or arrives is above zero, and smoke does not shrink. -/
structure Kindles (settings : Settings α) (calls : List (Call α γ)) : Prop where
  grows : ∀ growth, settings.number .growth = .ok growth → ¬ growth < zero
  fresh : ∀ fresh, settings.bound .firstDensity = .ok fresh → zero < fresh
  started : ∀ reference density, .ignite reference density ∈ calls → ∀ level,
    (density.getD (settings.value .firstDensity)).number? = some level → Moderate level →
      zero < level

/-- Every density that was written is above zero. -/
structure Burns (settings : Settings α) (outbreak : Outbreak α γ) : Prop where
  given : outbreak.settings = settings
  smoky : ∀ region ∈ outbreak.conditions.smoke.keys, outbreak.Smoky region

namespace Burns

omit [RandomSource γ α] in
/-- A region is filled with a density above zero. -/
theorem filled (burns : Burns settings outbreak) {density : α} (above : zero < density) :
    Burns settings (outbreak.filled region density) := by
  refine ⟨burns.given, fun other held => ?_⟩
  rw [Smoky, present_filled]
  split
  · exact above
  · rename_i elsewhere
    exact burns.smoky other ((mem_keys_filled.mp held).resolve_left (Ne.symm elsewhere))

omit [RandomSource γ α] in
/-- Of what a region holds and a density above zero, the denser is above zero. -/
theorem pos_larger (burns : Burns settings outbreak) {density : α} (above : zero < density) :
    zero < larger (outbreak.present region) density := by
  unfold larger
  split
  · exact above
  · rename_i denser
    by_cases held : region ∈ outbreak.conditions.smoke.keys
    · exact burns.smoky region held
    · unfold present at denser
      rw [(Table.find?_eq_none_iff _ _).mpr held] at denser
      exact absurd above denser

omit [RandomSource γ α] in
theorem pos_smaller [LawfulSmoke α] {density : α} (above : density < one → zero < density) :
    zero < smaller one density := by
  unfold smaller
  split
  · rename_i below
    exact above below
  · exact LawfulSmoke.pos_one

omit [RandomSource γ α] in
theorem onConditions (burns : Burns settings outbreak)
    {change : Conditions α → Except (Fault α) (Conditions α)}
    (kept : ∀ {before after}, change before = .ok after → after.smoke = before.smoke)
    (done : outbreak.onConditions change = .ok after) : Burns settings after := by
  rcases bind_eq_ok.mp done with ⟨conditions, changed, same⟩
  cases same
  refine ⟨burns.given, fun region held => ?_⟩
  unfold Smoky present
  dsimp only at held ⊢
  rw [kept changed] at held ⊢
  exact burns.smoky region held

section Kindling

variable [LawfulSmoke α] {calls : List (Call α γ)} (kindles : Kindles settings calls)

include kindles

omit [RandomSource γ α] in
theorem keeps_grow (held : region ∈ before.conditions.smoke.keys) :
    Keeps (fun after => Burns settings after ∧ Spreads before after)
      (grow region : Update (Outbreak α γ) α Unit) := by
  rintro outbreak ⟨burns, spreads⟩
  rw [run_grow, burns.given]
  cases isGrowth : settings.number .growth with
  | error fault => exact ⟨burns, spreads⟩
  | ok growth =>
    refine ⟨burns.filled (pos_smaller fun below => ?_), spreads.trans (spreads_filled _ _ _)⟩
    exact LawfulSmoke.pos_add (burns.smoky region (spreads.smoke region held))
      (kindles.grows growth isGrowth) below

omit [RandomSource γ α] in
theorem keeps_arrive (region : Int) :
    Keeps (fun after => Burns settings after ∧ Spreads before after)
      (arrive region : Update (Outbreak α γ) α Unit) := by
  rintro outbreak ⟨burns, spreads⟩
  rw [run_arrive, burns.given]
  cases isFresh : settings.bound .firstDensity with
  | error fault => exact ⟨burns, spreads⟩
  | ok fresh =>
    refine ⟨burns.filled (pos_smaller fun _ => ?_), spreads.trans (spreads_filled _ _ _)⟩
    exact burns.pos_larger (kindles.fresh fresh isFresh)

/-- Only regions that hold smoke when a cycle begins grow in it, so no density of zero is made. -/
theorem cycle (burns : Burns settings before) :
    Burns settings (ExceptT.run before.cycle before).2 := by
  have kept : Keeps (fun after => Burns settings after ∧ Spreads before after) before.cycle := by
    refine keeps_forM fun region isSource => ?_
    refine keeps_spreadFrom (keeps_grow kindles (mem_sources.mp isSource)) ?_
    intro outbreak both connections found connection isConnection
    refine keeps_tryConnection ?_ fun _ destination _ _ => keeps_arrive kindles destination
    rintro after source ⟨burns, spreads⟩
    exact ⟨⟨burns.given, burns.smoky⟩, spreads.trans ⟨rfl, rfl, rfl, fun _ => id⟩⟩
  exact (kept before ⟨burns, .refl before⟩).1

theorem spread (burns : Burns settings outbreak) :
    Burns settings (outbreak.perform .spread).1 := by
  cases due : outbreak.isDue with
  | false =>
    rw [perform_spread_of_waiting due]
    exact ⟨burns.given, burns.smoky⟩
  | true =>
    rw [perform_spread_of_due due]
    exact cycle kindles ⟨burns.given, burns.smoky⟩

theorem perform (burns : Burns settings outbreak) {call : Call α γ} (isCall : call ∈ calls) :
    Burns settings (outbreak.perform call).1 := by
  cases call with
  | ignite reference density =>
    refine attempt_keeps _ burns fun {after} done => ?_
    rcases ignite_eq_ok done with ⟨level, -, isLevel, moderate, rfl⟩
    rw [burns.given] at isLevel
    have above := kindles.started reference density isCall level isLevel moderate
    exact burns.filled (burns.pos_larger above)
  | spread => exact spread kindles burns
  | block reference => exact attempt_keeps _ burns (burns.onConditions Conditions.smoke_of_block)
  | unblock reference =>
    exact attempt_keeps _ burns (burns.onConditions Conditions.smoke_of_unblock)
  | reset => exact ⟨burns.given, nofun⟩
  | reseed source => exact ⟨burns.given, burns.smoky⟩

theorem performAll (network : Network α) (source : γ) :
    Burns settings ((ofNetwork network settings source).performAll calls) := by
  have begins : Burns settings (ofNetwork network settings source) := ⟨rfl, nofun⟩
  have onward : ∀ made : List (Call α γ), (∀ call ∈ made, call ∈ calls) →
      ∀ outbreak, Burns settings outbreak → Burns settings (outbreak.performAll made) := by
    intro made
    induction made with
    | nil => exact fun _ outbreak burns => burns
    | cons call rest hypothesis =>
      intro among outbreak burns
      exact hypothesis (fun other member => among other (List.mem_cons_of_mem _ member)) _
        (perform kindles burns (among call List.mem_cons_self))
  exact onward calls (fun _ => id) _ begins

end Kindling

end Burns

/-- A region is behind an unblocked connection that leaves a region of a kind. -/
def Behind (outbreak : Outbreak α γ) (kind : Int → Prop) (region : Int) : Prop :=
  ∃ connection ∈ outbreak.conditions.network.connections,
    connection.destination = some region ∧ connection.index ∉ outbreak.conditions.blocked ∧
      kind connection.source

/-- Where there is smoke after a call, a density was written before it, or such a region is behind
an unblocked connection. -/
theorem written_of_smoky [LawfulSmoke α] (smoky : (outbreak.perform .spread).1.Smoky region) :
    region ∈ outbreak.conditions.smoke.keys ∨
      outbreak.Behind (· ∈ outbreak.conditions.smoke.keys) region := by
  rcases mem_keys_of_call smoky.mem_keys with held |
    ⟨-, connection, member, held, between, spreads, crosses⟩
  · exact Or.inl held
  · have passable := crosses.passable
    rw [spreads.blocked] at passable
    exact Or.inr ⟨connection, member, crosses.leads, passable, held⟩

/-- Smoke comes from regions where a density was written.  If only densities above zero are written,
it comes from smoke. -/
theorem smoke_comes_from_smoke [LawfulSmoke α] (network : Network α) (settings : Settings α)
    (source : γ) (calls : List (Call α γ)) :
    let before := (ofNetwork network settings source).performAll calls
    (∀ region, (before.perform .spread).1.Smoky region →
      region ∈ before.conditions.smoke.keys ∨
        before.Behind (· ∈ before.conditions.smoke.keys) region) ∧
    (Kindles settings calls → ∀ region, (before.perform .spread).1.Smoky region →
      before.Smoky region ∨ before.Behind before.Smoky region) := by
  intro before
  refine ⟨fun region => written_of_smoky, fun kindles region smoky => ?_⟩
  have burns : Burns settings before := Burns.performAll kindles network source
  refine (written_of_smoky smoky).imp (burns.smoky region) ?_
  rintro ⟨connection, member, leads, passable, held⟩
  exact ⟨connection, member, leads, passable, burns.smoky _ held⟩

/-- Smoke in the first room of the row, with a call of the simulation after it. -/
def rowCalls : List (Call Rat (Steady Rat)) := [.ignite 0 none, .spread]

theorem rowCalls_kindle : Kindles eagerSettings rowCalls := by
  refine ⟨?_, ?_, ?_⟩
  · intro growth isGrowth
    cases (eagerSettings_paces.growth.symm.trans isGrowth)
    decide +kernel
  · intro fresh isFresh
    cases (eagerSettings_paces.fresh.symm.trans isFresh)
    decide +kernel
  · intro reference density isCall level isLevel _
    rcases List.mem_cons.mp isCall with same | other
    · cases same
      cases isLevel
      decide +kernel
    · cases List.mem_singleton.mp other

theorem smoke_comes_from_smoke_in_row :
    let before := (ofNetwork Building.rowNetwork eagerSettings ⟨0⟩).performAll rowCalls
    ∀ region, (before.perform .spread).1.Smoky region →
      before.Smoky region ∨ before.Behind before.Smoky region := by
  have comes :=
    (smoke_comes_from_smoke Building.rowNetwork eagerSettings ⟨0⟩ rowCalls).2 rowCalls_kindle
  exact comes

/-- Smoke that was started at no density is none, and yet it grows: there is smoke in the first room
of the row after a call before which there was none anywhere. -/
theorem smoke_comes_from_nothing :
    let before := (ofNetwork Building.rowNetwork eagerSettings (⟨0⟩ : Steady Rat)).performAll
      [.ignite 0 (some (.int 0))]
    (before.perform .spread).1.Smoky 0 ∧ (∀ region, ¬ before.Smoky region) ∧
      ¬ before.Behind before.Smoky 0 := by
  intro before
  let lit := (ofNetwork Building.rowNetwork eagerSettings (⟨0⟩ : Steady Rat)).filled 0 0
  have inside : Building.rowNetwork.Holds 0 := ⟨by decide, by decide +kernel⟩
  have moderate : Moderate (0 : Rat) := ⟨by decide +kernel, by decide +kernel⟩
  have started : before = lit := by
    have accepted : (ofNetwork Building.rowNetwork eagerSettings (⟨0⟩ : Steady Rat)).ignite 0
        (some (.int 0)) = .ok _ := ignite_ok inside rfl moderate
    change (attempt _ (ignite _ _ _)).1 = _
    rw [accepted]
    rfl
  have none : ∀ region, ¬ before.Smoky region := by
    intro region
    rw [started, Smoky, present_filled]
    split
    · exact LawfulSmoke.not_pos_zero
    · exact LawfulSmoke.not_pos_zero
  refine ⟨?_, none, fun ⟨connection, _, _, _, smoky⟩ => none _ smoky⟩
  have isSource : lit.sources = [0] := sources_eq (by decide) fun _ => Iff.rfl
  have housed : ∀ region ∈ lit.conditions.smoke.keys, lit.conditions.network.Holds region := by
    intro region held
    cases List.mem_singleton.mp held
    exact inside
  have bounded : lit.conditions.Bounded := by
    intro region density found
    have member : (region, density) ∈ [((0 : Int), (0 : Rat))] := Table.find?_eq_some_iff.mp found
    cases List.mem_singleton.mp member
    exact moderate
  rw [started, Smoky, present, find?_call (by decide +kernel) eagerSettings_paces housed bounded
    ⟨by decide +kernel, by decide +kernel⟩ (by decide +kernel)]
  simp only [crossings, trials, isSource]
  decide +kernel

end Outbreak

end Egress
