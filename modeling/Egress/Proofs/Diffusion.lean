import Mathlib.Algebra.Order.Field.Basic
import Mathlib.Algebra.Order.Ring.Rat
import Egress.Proofs.Cycle
import Egress.Proofs.Densities
import Egress.Proofs.Rectangle
import Egress.Twister

/-!
# How far smoke has come

Smoke crosses at most one connection in a cycle and never a blocked one.  So after a number of
calls of the simulation it is where it was at the start, and nowhere else but within as many
unblocked live connections of there as cycles took place.  Which of these regions it has reached
depends on what was drawn, unless the chance leaves nothing to the draw: at one or more all of them
are reached, and at zero or less none.

Calls that fail in the middle of a cycle leave smoke on its way, so for the regions that are reached
with certainty all calls have to return.  They do if the settings give numbers.
-/

namespace Egress

open Scalar

/-! ## Samples -/

namespace Twister

theorem bits_lt (twister : Twister) : twister.bits.1 < 2 ^ 53 := by
  have high : ∀ word : UInt32, (word >>> 5).toNat < 2 ^ 27 := by
    intro word
    have := word.toNat_lt
    rw [UInt32.toNat_shiftRight, Nat.shiftRight_eq_div_pow]
    change word.toNat / 32 < _
    omega
  have low : ∀ word : UInt32, (word >>> 6).toNat < 2 ^ 26 := by
    intro word
    have := word.toNat_lt
    rw [UInt32.toNat_shiftRight, Nat.shiftRight_eq_div_pow]
    change word.toNat / 64 < _
    omega
  have first := high twister.next.1
  have second := low twister.next.2.next.1
  change (twister.next.1 >>> 5).toNat * 67108864 + (twister.next.2.next.1 >>> 6).toNat < _
  omega

/-- A sample as an exact number. -/
instance : RandomSource Twister Rat where
  draw twister := (twister.bits.1 / 9007199254740992, twister.bits.2)

instance : LawfulSource Twister Rat where
  nonneg twister := div_nonneg (Nat.cast_nonneg twister.bits.1) (by decide +kernel)
  below_one twister := by
    have below : (twister.bits.1 : Rat) < (2 ^ 53 : Nat) := Nat.cast_lt.mpr twister.bits_lt
    exact (div_lt_one (by decide +kernel)).mpr below

end Twister

/-! ## Steps away -/

namespace Network

variable {α : Type} {network : Network α} {blocked : List Nat} {starts : List Int} {region : Int}

/-- Some walk from one of the starts takes no more steps than given, and none through a blocked
connection. -/
def Within (network : Network α) (blocked : List Nat) (starts : List Int) (steps : Nat)
    (region : Int) : Prop :=
  ∃ start ∈ starts, ∃ walk, network.Walk (fun _ => True) start walk region ∧
    (∀ connection ∈ walk, connection.index ∉ blocked) ∧ walk.length ≤ steps

theorem within_zero : network.Within blocked starts 0 region ↔ region ∈ starts := by
  constructor
  · rintro ⟨start, isStart, walk, isWalk, -, short⟩
    rw [List.length_eq_zero_iff.mp (Nat.le_zero.mp short)] at isWalk
    exact isWalk.start_of_nil ▸ isStart
  · intro isStart
    exact ⟨region, isStart, [], .stay, fun _ member => absurd member List.not_mem_nil, le_rfl⟩

/-- With one step more, one more connection may be followed. -/
theorem within_succ {steps : Nat} :
    network.Within blocked starts (steps + 1) region ↔
      network.Within blocked starts steps region ∨
      ∃ connection ∈ network.connections, network.Within blocked starts steps connection.source ∧
        connection.destination = some region ∧ connection.index ∉ blocked := by
  constructor
  · rintro ⟨start, isStart, walk, isWalk, passable, short⟩
    by_cases shorter : walk.length ≤ steps
    · exact Or.inl ⟨start, isStart, walk, isWalk, passable, shorter⟩
    · cases isWalk with
      | stay => exact absurd (Nat.zero_le _) shorter
      | @follow before connection _ isWalk _ member isTarget =>
        rw [List.length_append, List.length_singleton] at short
        refine Or.inr ⟨connection, member, ?_, isTarget, ?_⟩
        · exact ⟨start, isStart, before, isWalk,
            fun other earlier => passable other (List.mem_append_left _ earlier), by omega⟩
        · exact passable connection (List.mem_append_right _ List.mem_cons_self)
  · rintro (⟨start, isStart, walk, isWalk, passable, short⟩ |
      ⟨connection, member, ⟨start, isStart, walk, isWalk, passable, short⟩, isTarget, isOpen⟩)
    · exact ⟨start, isStart, walk, isWalk, passable, Nat.le_succ_of_le short⟩
    · refine ⟨start, isStart, walk ++ [connection], isWalk.follow trivial member isTarget, ?_, ?_⟩
      · intro other isOther
        rcases List.mem_append.mp isOther with earlier | last
        · exact passable other earlier
        · exact List.mem_singleton.mp last ▸ isOpen
      · rw [List.length_append, List.length_singleton]
        omega

theorem Within.holds (formed : network.WellFormed) (inside : ∀ start ∈ starts, network.Holds start)
    {steps : Nat} (within : network.Within blocked starts steps region) : network.Holds region := by
  rcases within with ⟨start, isStart, walk, isWalk, -⟩
  exact isWalk.holds formed (inside start isStart)

end Network

namespace Outbreak

open Update

variable {α γ : Type} [Scalar α] [RandomSource γ α] {outbreak : Outbreak α γ} {region : Int}

/-! ## Calls of the simulation -/

/-- The state after a number of calls of the simulation. -/
def afterCalls (outbreak : Outbreak α γ) (calls : Nat) : Outbreak α γ :=
  outbreak.performAll (List.replicate calls .spread)

/-- How many of these calls run a cycle. -/
def cyclesIn (outbreak : Outbreak α γ) (calls : Nat) : Nat :=
  (List.range calls).countP fun time => (outbreak.afterCalls time).isDue

/-- Each of these calls returns. -/
def Returns (outbreak : Outbreak α γ) (calls : Nat) : Prop :=
  ∀ time < calls, ∃ count, ((outbreak.afterCalls time).perform .spread).2 = .ok (some count)

theorem afterCalls_succ (calls : Nat) :
    outbreak.afterCalls (calls + 1) = ((outbreak.afterCalls calls).perform .spread).1 := by
  unfold afterCalls performAll
  rw [List.replicate_succ', List.foldl_append]
  rfl

theorem cyclesIn_succ (calls : Nat) :
    outbreak.cyclesIn (calls + 1) =
      outbreak.cyclesIn calls + if (outbreak.afterCalls calls).isDue then 1 else 0 := by
  unfold cyclesIn
  rw [List.range_succ, List.countP_append, List.countP_singleton]

/-! ### One call -/

theorem perform_spread_of_due (due : outbreak.isDue = true) :
    outbreak.perform .spread =
      ((ExceptT.run outbreak.started.cycle outbreak.started).2,
        (ExceptT.run outbreak.started.cycle outbreak.started).1.map fun _ => some 0) := by
  change ((ExceptT.run spread outbreak).2, (ExceptT.run spread outbreak).1.map some) = _
  rw [run_spread_of_due due]
  rcases ExceptT.run outbreak.started.cycle outbreak.started with ⟨fault | value, after⟩
  · rfl
  · rfl

theorem perform_spread_of_waiting (waiting : outbreak.isDue = false) :
    outbreak.perform .spread =
      ({ outbreak with counter := outbreak.counter + 1 },
        (outbreak.settings.bound .spreadDelay).map fun _ => some (outbreak.counter + 1)) := by
  change ((ExceptT.run spread outbreak).2, (ExceptT.run spread outbreak).1.map some) = _
  rw [run_spread_of_waiting waiting]
  cases outbreak.settings.bound .spreadDelay with
  | error fault => rfl
  | ok delay => rfl

theorem spreads_call (outbreak : Outbreak α γ) : Spreads outbreak (outbreak.perform .spread).1 := by
  cases due : outbreak.isDue with
  | false =>
    rw [perform_spread_of_waiting due]
    exact ⟨rfl, rfl, rfl, fun _ => id⟩
  | true =>
    rw [perform_spread_of_due due]
    have begun : Spreads outbreak outbreak.started := ⟨rfl, rfl, rfl, fun _ => id⟩
    exact begun.trans (spreads_cycle outbreak.started)

/-- After a call smoke is where it was before, or a cycle has brought it there. -/
theorem mem_keys_of_call (holds : region ∈ (outbreak.perform .spread).1.conditions.smoke.keys) :
    region ∈ outbreak.conditions.smoke.keys ∨
      outbreak.isDue = true ∧ outbreak.started.Entered region := by
  cases due : outbreak.isDue with
  | false =>
    rw [perform_spread_of_waiting due] at holds
    exact Or.inl holds
  | true =>
    rw [perform_spread_of_due due] at holds
    exact ((spreadsTo_cycle outbreak.started).only region holds).imp_right fun entered =>
      ⟨rfl, entered⟩

/-- A cycle that is certain to take smoke across has done so when the call returns. -/
theorem isBehind_of_call (certain : outbreak.Certain) (due : outbreak.isDue = true) {count : Nat}
    (returned : (outbreak.perform .spread).2 = .ok (some count)) {connection : Connection α}
    (member : connection ∈ outbreak.conditions.network.connections)
    (held : (connection.source : Int) ∈ outbreak.conditions.smoke.keys) :
    (outbreak.perform .spread).1.IsBehind connection := by
  rw [perform_spread_of_due due] at returned ⊢
  have started : outbreak.started.Certain := certain
  refine cycle_makes started ?_ connection member held
  cases result : (ExceptT.run outbreak.started.cycle outbreak.started).1 with
  | ok value => rfl
  | error fault =>
    rw [result] at returned
    cases returned

/-! ### Several calls -/

theorem spreads_afterCalls (outbreak : Outbreak α γ) (calls : Nat) :
    Spreads outbreak (outbreak.afterCalls calls) := by
  induction calls with
  | zero => exact .refl outbreak
  | succ calls hypothesis =>
    rw [afterCalls_succ]
    exact hypothesis.trans (spreads_call _)

/-- The regions within as many open connections of smoke as cycles take place in some calls. -/
def InReach (outbreak : Outbreak α γ) (calls : Nat) (region : Int) : Prop :=
  outbreak.conditions.network.Within outbreak.conditions.blocked outbreak.conditions.smoke.keys
    (outbreak.cyclesIn calls) region

theorem inReach_zero : outbreak.InReach 0 region ↔ region ∈ outbreak.conditions.smoke.keys :=
  Network.within_zero

/-- A call that runs a cycle adds the regions one connection further on. -/
theorem inReach_succ {calls : Nat} : outbreak.InReach (calls + 1) region ↔
    outbreak.InReach calls region ∨ (outbreak.afterCalls calls).isDue = true ∧
      ∃ connection ∈ outbreak.conditions.network.connections,
        outbreak.InReach calls connection.source ∧ connection.destination = some region ∧
          connection.index ∉ outbreak.conditions.blocked := by
  unfold InReach
  rw [cyclesIn_succ]
  cases (outbreak.afterCalls calls).isDue with
  | false => simp only [Bool.false_eq_true, if_false, Nat.add_zero, false_and, or_false]
  | true =>
    rw [if_pos rfl, Network.within_succ]
    simp only [true_and]

theorem inReach_of_afterCalls {calls : Nat}
    (holds : region ∈ (outbreak.afterCalls calls).conditions.smoke.keys) :
    outbreak.InReach calls region := by
  induction calls generalizing region with
  | zero => exact inReach_zero.mpr holds
  | succ calls hypothesis =>
    have earlier := spreads_afterCalls outbreak calls
    rw [afterCalls_succ] at holds
    rw [inReach_succ]
    rcases mem_keys_of_call holds with before |
      ⟨due, connection, member, held, between, spreads, crosses⟩
    · exact Or.inl (hypothesis before)
    · have sameBlocked : between.conditions.blocked = outbreak.conditions.blocked :=
        spreads.blocked.trans earlier.blocked
      refine Or.inr ⟨due, connection, earlier.network ▸ member, hypothesis held, crosses.leads, ?_⟩
      exact sameBlocked ▸ crosses.passable

/-- What is in reach is reached if smoke is certain to cross and no call fails. -/
theorem afterCalls_of_inReach (certain : outbreak.Certain) {calls : Nat}
    (returns : outbreak.Returns calls) (inReach : outbreak.InReach calls region) :
    region ∈ (outbreak.afterCalls calls).conditions.smoke.keys := by
  induction calls generalizing region with
  | zero => exact inReach_zero.mp inReach
  | succ calls hypothesis =>
    have earlier := spreads_afterCalls outbreak calls
    have last := spreads_call (outbreak.afterCalls calls)
    have before : ∀ region, outbreak.InReach calls region →
        region ∈ (outbreak.afterCalls calls).conditions.smoke.keys :=
      fun _ => hypothesis fun time less => returns time (Nat.lt_succ_of_lt less)
    rw [afterCalls_succ]
    rcases inReach_succ.mp inReach with sooner | ⟨due, connection, member, held, leads, isOpen⟩
    · exact last.smoke region (before region sooner)
    · rcases returns calls (Nat.lt_succ_self calls) with ⟨count, returned⟩
      rw [← earlier.network] at member
      refine isBehind_of_call (certain.lasts earlier) due returned member (before _ held) region
        leads ?_
      rwa [last.blocked, earlier.blocked]

/-- Smoke stays where it is if whatever is drawn does not fall below the chance. -/
theorem mem_keys_of_afterCalls {chance : α}
    (isChance : outbreak.settings.bound .spreadChance = .ok chance)
    (idle : ∀ source : γ, ¬ (RandomSource.draw source : α × γ).1 < chance) {calls : Nat}
    (holds : region ∈ (outbreak.afterCalls calls).conditions.smoke.keys) :
    region ∈ outbreak.conditions.smoke.keys := by
  induction calls with
  | zero => exact holds
  | succ calls hypothesis =>
    rw [afterCalls_succ] at holds
    rcases mem_keys_of_call holds with before | ⟨-, _, -, -, between, spreads, crosses⟩
    · exact hypothesis before
    · have sameSettings : between.settings = outbreak.settings :=
        spreads.settings.trans (spreads_afterCalls outbreak calls).settings
      rcases crosses.drawn with ⟨other, isOther, below⟩
      rw [sameSettings, isChance] at isOther
      cases isOther
      exact absurd below (idle _)

/-- Where the settings give numbers, every call returns. -/
theorem returns_of_paces (formed : outbreak.conditions.network.WellFormed)
    (inside : ∀ region ∈ outbreak.conditions.smoke.keys, outbreak.conditions.network.Holds region)
    {pace : Pace α} (paces : outbreak.settings.Paces pace) {delay : α}
    (delayed : outbreak.settings.bound .spreadDelay = .ok delay) (calls : Nat) :
    outbreak.Returns calls := by
  intro time _
  have earlier := spreads_afterCalls outbreak time
  cases due : (outbreak.afterCalls time).isDue with
  | false =>
    rw [perform_spread_of_waiting due, earlier.settings, delayed]
    exact ⟨_, rfl⟩
  | true =>
    have within : ∀ region ∈ (outbreak.afterCalls time).started.conditions.smoke.keys,
        (outbreak.afterCalls time).started.conditions.network.Holds region := by
      intro region holds
      change (outbreak.afterCalls time).conditions.network.Holds region
      rw [earlier.network]
      exact (inReach_of_afterCalls holds).holds formed inside
    have paced : (outbreak.afterCalls time).started.settings.Paces pace :=
      (show (outbreak.afterCalls time).started.settings = outbreak.settings from
        earlier.settings) ▸ paces
    rw [perform_spread_of_due due, cycle_paced paced within]
    exact ⟨0, rfl⟩

/-! ## The reach of smoke -/

/-- Smoke keeps the regions that it holds and comes no further than one open connection with each
cycle.  It comes nowhere if the chance is zero or less, and everywhere in reach if the chance is one
or more and no call fails; and none fails if the settings give numbers. -/
theorem smoke_in_reach [LawfulSource γ α] [LawfulChances α] (outbreak : Outbreak α γ)
    (calls : Nat) :
    let before := outbreak.conditions.smoke.keys
    let after := (outbreak.afterCalls calls).conditions.smoke.keys
    (∀ region ∈ before, region ∈ after) ∧
    (∀ region ∈ after, outbreak.InReach calls region) ∧
    (∀ chance, outbreak.settings.bound .spreadChance = .ok chance →
      (chance ≤ zero → ∀ region, region ∈ after ↔ region ∈ before) ∧
      (one ≤ chance → outbreak.Returns calls →
        ∀ region, region ∈ after ↔ outbreak.InReach calls region)) ∧
    (∀ pace delay, outbreak.conditions.network.WellFormed →
      (∀ region ∈ before, outbreak.conditions.network.Holds region) →
      outbreak.settings.Paces pace → outbreak.settings.bound .spreadDelay = .ok delay →
        outbreak.Returns calls) := by
  intro before after
  have grows : ∀ region ∈ before, region ∈ after := (spreads_afterCalls outbreak calls).smoke
  refine ⟨grows, fun _ => inReach_of_afterCalls, fun chance isChance => ⟨?_, ?_⟩, ?_⟩
  · intro most region
    refine ⟨mem_keys_of_afterCalls isChance fun source => ?_, grows region⟩
    exact LawfulChances.not_lt_of_le_zero (LawfulSource.nonneg source) most
  · intro least returns region
    refine ⟨inReach_of_afterCalls, afterCalls_of_inReach ⟨chance, isChance, ?_⟩ returns⟩
    exact fun source => LawfulChances.lt_of_one_le (LawfulSource.below_one source) least
  · intro pace delay formed inside paces delayed
    exact returns_of_paces formed inside paces delayed calls

/-- Smoke in the first room of the row, and a chance that is given. -/
def burningRow (chance : Int) : Outbreak Rat Twister where
  conditions := (Conditions.ofNetwork Building.rowNetwork).fill 0 1
  settings := { Settings.defaults with
    value := fun setting => if setting = .spreadChance then .int chance else setting.default }
  counter := 0
  source := .ofSeed 0

theorem smoke_in_reach_in_row :
    (∀ region, region ∈ ((burningRow 0).afterCalls 10).conditions.smoke.keys ↔ region ∈ [0]) ∧
    (burningRow 1).Returns 10 ∧
    ∀ region, region ∈ ((burningRow 1).afterCalls 10).conditions.smoke.keys ↔
      (burningRow 1).InReach 10 region := by
  rcases smoke_in_reach (burningRow 0) 10 with ⟨-, -, idle, -⟩
  rcases smoke_in_reach (burningRow 1) 10 with ⟨-, -, certain, returning⟩
  have returns : (burningRow 1).Returns 10 := by
    refine returning ⟨_, _, _⟩ _ Building.row_priced.formed ?_ ⟨rfl, rfl, rfl⟩ rfl
    intro region held
    rw [List.mem_singleton.mp held]
    exact ⟨le_rfl, by decide +kernel⟩
  refine ⟨?_, returns, (certain 1 rfl).2 le_rfl returns⟩
  exact (idle 0 rfl).1 le_rfl

end Outbreak

end Egress
