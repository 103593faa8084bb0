import Egress.Conditions
import Egress.RandomSource
import Egress.Settings

/-!
# How smoke spreads

An outbreak drives the conditions of a building.  Every few calls, as the spread delay says, a
cycle takes place: in the regions that held smoke before the cycle, in ascending order, the density
grows, and smoke crosses each unblocked connection with a given chance.  A region reached in a cycle
spreads smoke from the next cycle on, and densities are capped at one.

One random number is drawn for each unblocked live connection of those regions, in order, whatever
the earlier draws came to.

A call that fails keeps what it had done before it failed, so calls return the state they leave
beside their result.
-/

namespace Egress

/-- A call that changes a state and may fail, keeping the changes made before. -/
abbrev Update (σ α β : Type) : Type := ExceptT (Fault α) (StateM σ) β

structure Outbreak (α γ : Type) where
  conditions : Conditions α
  settings : Settings α
  /-- Calls since the last cycle. -/
  counter : Nat
  source : γ

namespace Outbreak

variable {α γ : Type}

/-- Start over with another generator. -/
def reseed (outbreak : Outbreak α γ) (source : γ) : Outbreak α γ := { outbreak with source }

/-- Start over with the generator of a seed, if one is given. -/
def seed [SeededSource γ] (outbreak : Outbreak α γ) (given : Option Int) :
    Except (Fault α) (Outbreak α γ) :=
  match given with
  | none => .ok outbreak
  | some number =>
    match SeededSource.ofSeed? number with
    | some source => .ok (outbreak.reseed source)
    | none => .error .seedOutOfRange

variable [Scalar α]

def ofNetwork (network : Network α) (settings : Settings α) (source : γ) : Outbreak α γ :=
  ⟨Conditions.ofNetwork network, settings, 0, source⟩

/-- Start smoke in a region, or raise its density; never lower it. -/
def ignite (outbreak : Outbreak α γ) (reference : Int) (density : Option (Value α)) :
    Except (Fault α) (Outbreak α γ) := do
  let region ← outbreak.conditions.regionIndex reference
  let given := density.getD (outbreak.settings.value .firstDensity)
  let some level := given.number? | throw .wrongType
  if Scalar.zero ≤ level ∧ level ≤ Scalar.one then
    let present := (outbreak.conditions.smoke.find? region).getD Scalar.zero
    return { outbreak with
      conditions := outbreak.conditions.fill region (Scalar.larger present level) }
  else throw (.densityOutOfRange given)

/-- Take over what an operation on the conditions made of them. -/
def onConditions (outbreak : Outbreak α γ)
    (change : Conditions α → Except (Fault α) (Conditions α)) :
    Except (Fault α) (Outbreak α γ) := do
  return { outbreak with conditions := ← change outbreak.conditions }

/-- Back to a building without smoke and without blocked connections.  The generator goes on. -/
def reset (outbreak : Outbreak α γ) : Outbreak α γ :=
  { outbreak with conditions := outbreak.conditions.cleared, counter := 0 }

/-- A setting as a number to compare with, in the middle of a call. -/
def bound (name : Setting) : Update (Outbreak α γ) α α := do
  let outbreak ← get
  match outbreak.settings.bound name with
  | .ok value => return value
  | .error fault => throw fault

/-- What a cycle adds to a density, in the middle of a call. -/
def growth : Update (Outbreak α γ) α α := do
  let outbreak ← get
  match outbreak.settings.number .growth with
  | .ok value => return value
  | .error fault => throw fault

/-- The smoke in a region grows by one cycle. -/
def grow (region : Int) : Update (Outbreak α γ) α Unit := do
  let outbreak ← get
  let present := (outbreak.conditions.smoke.find? region).getD Scalar.zero
  let growth ← growth
  set { outbreak with
    conditions := outbreak.conditions.fill region (Scalar.smaller Scalar.one (present + growth)) }

/-- Smoke reaches a region, or is there already and at least as dense as fresh smoke. -/
def arrive (region : Int) : Update (Outbreak α γ) α Unit := do
  let outbreak ← get
  let present := (outbreak.conditions.smoke.find? region).getD Scalar.zero
  let fresh ← bound .firstDensity
  set { outbreak with
    conditions := outbreak.conditions.fill region
      (Scalar.smaller Scalar.one (Scalar.larger present fresh)) }

/-- The regions that hold smoke, in ascending order. -/
def sources (outbreak : Outbreak α γ) : List Int :=
  outbreak.conditions.smoke.keys.mergeSort fun first second => decide (first ≤ second)

variable [RandomSource γ α]

/-- One random number. -/
def draw : Update (Outbreak α γ) α α := do
  let outbreak ← get
  let (value, source) := RandomSource.draw (α := α) outbreak.source
  set { outbreak with source }
  return value

/-- Smoke tries one connection. -/
def tryConnection (connection : Connection α) : Update (Outbreak α γ) α Unit := do
  let outbreak ← get
  match connection.destination with
  | none => return
  | some destination =>
    if outbreak.conditions.blocked.contains connection.index then return
    let value ← draw
    let chance ← bound .spreadChance
    if value < chance then arrive destination

/-- One region takes part in a cycle. -/
def spreadFrom (region : Int) : Update (Outbreak α γ) α Unit := do
  grow region
  let outbreak ← get
  match outbreak.conditions.network.outgoing region with
  | .error fault => throw fault
  | .ok connections => connections.forM tryConnection

/-- Count a call, and run a cycle if the delay is over.  The result is the count of calls since the
last cycle. -/
def spread : Update (Outbreak α γ) α Nat := do
  modify fun outbreak => { outbreak with counter := outbreak.counter + 1 }
  let outbreak ← get
  let delay ← bound .spreadDelay
  if Scalar.ofInt outbreak.counter < delay then return outbreak.counter
  modify fun outbreak => { outbreak with counter := 0 }
  outbreak.sources.forM spreadFrom
  return 0

end Outbreak

end Egress
