import Egress.Network
import Egress.Settings

/-!
# Tariffs: cost factors over base costs

A tariff holds one agent's factors on the connections of a network: for each connection, the
factors that sensors have written, under the sensors' names.  A connection without factors weighs
its base cost; one with factors weighs the product, multiplied from left to right in the order in
which the factors were first written.  The weight is then held between two bounds, so that it is
positive and finite whatever the product comes to.  A bound that takes effect is the weight as the
settings give it; whether it is a number shows where the weight is added up.

No connection is kept with an empty table, and a write that fails changes nothing.
-/

namespace Egress

structure Tariff (α : Type) where
  /-- The base cost of each connection, by index. -/
  baseCosts : List (Option α)
  lowest : Value α
  highest : Value α
  factors : Table Nat (Table String α)
  deriving Inhabited

namespace Tariff

variable {α : Type} [Scalar α]

/-- A tariff without factors. -/
def ofNetwork (network : Network α) (settings : Settings α) : Tariff α where
  baseCosts := network.connections.map fun connection => connection.baseCost
  lowest := settings.value .weightFloor
  highest := settings.value .weightCeiling
  factors := ∅

/-- A reference as a connection index. -/
def indexOf (tariff : Tariff α) (reference : Int) : Except (Fault α) Nat :=
  if 0 ≤ reference ∧ reference < tariff.baseCosts.length then .ok reference.toNat
  else .error (.noConnectionIndex reference)

/-- The factors of a connection. -/
def of (tariff : Tariff α) (index : Nat) : Table String α :=
  (tariff.factors.find? index).getD ∅

/-- Write a sensor's factor on a connection in place of its former one. -/
def setFactor (tariff : Tariff α) (reference : Int) (sensor : String) (factor : α) :
    Except (Fault α) (Tariff α) :=
  if Scalar.isFactor factor then do
    let index ← tariff.indexOf reference
    return { tariff with
      factors := tariff.factors.insert index ((tariff.of index).insert sensor factor) }
  else .error (.invalidFactor sensor factor)

def factor? (tariff : Tariff α) (reference : Int) (sensor : String) :
    Except (Fault α) (Option α) := do
  return (tariff.of (← tariff.indexOf reference)).find? sensor

/-- The factors of a connection with the sensors that wrote them, in order. -/
def factorsOf (tariff : Tariff α) (reference : Int) : Except (Fault α) (List (String × α)) := do
  return (tariff.of (← tariff.indexOf reference)).entries

/-- Hold a weight between two bounds.  A weight that is not finite takes the upper one, and the
lower bound is not looked at where the upper one decides. -/
def clamp (lowest highest : Value α) (weight : α) : Except (Fault α) (Value α) :=
  if !Scalar.isFinite weight then .ok highest
  else
    match highest.number? with
    | none => .error .wrongType
    | some high =>
      if high < weight then .ok highest
      else
        match lowest.number? with
        | none => .error .wrongType
        | some low => .ok (if weight < low then lowest else .real weight)

/-- The base cost times all factors, from left to right. -/
def product (tariff : Tariff α) (index : Nat) (base : α) : α :=
  (tariff.of index).values.foldl (· * ·) base

/-- The effective weight of a connection, as the settings give it if a bound takes effect. -/
def effective (tariff : Tariff α) (reference : Int) : Except (Fault α) (Value α) := do
  let index ← tariff.indexOf reference
  match tariff.baseCosts[index]? with
  | none => throw (.noConnectionIndex reference)
  | some none => throw .tooLarge
  | some (some base) => clamp tariff.lowest tariff.highest (tariff.product index base)

/-- The effective weight of a connection, to be added up. -/
def weight (tariff : Tariff α) (reference : Int) : Except (Fault α) α := do
  (← tariff.effective reference).number

/-- Drop every factor of one sensor; the count says how many there were. -/
def clear (tariff : Tariff α) (sensor : String) : Tariff α × Nat :=
  let removed := tariff.factors.entries.countP fun entry => entry.2.contains sensor
  let kept := (tariff.factors.mapValues fun _ table => table.erase sensor).filter
    fun _ table => !table.isEmpty
  ({ tariff with factors := kept }, removed)

/-- Every factor with its connection and its sensor. -/
def entries (tariff : Tariff α) : List (Nat × String × α) :=
  tariff.factors.entries.flatMap fun (index, table) =>
    table.entries.map fun (sensor, factor) => (index, sensor, factor)

def size (tariff : Tariff α) : Nat :=
  tariff.factors.values.foldl (fun count table => count + table.size) 0

end Tariff

end Egress
