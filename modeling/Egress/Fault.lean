import Egress.Category
import Egress.Point
import Egress.Setting

/-!
# What can go wrong

A fault is a cause with its data.  Its kind says how callers treat it: a planning fault of a sensor
only skips that sensor, an agent without a route falls back to exploring, and everything else ends
the call.  The wording of each fault is in `Egress.Wording`.
-/

namespace Egress

/-- How a fault is treated. -/
inductive FaultKind where
  /-- A position lies in no region. -/
  | unlocated
  /-- A target cannot be reached with what an agent knows. -/
  | noRoute
  /-- A sensor reported something that is no cost factor. -/
  | invalidFactor
  /-- A building gives no network. -/
  | unbuildable
  | unknownAgent
  /-- A planning fault of no special kind. -/
  | planning
  | badValue
  | missingKey
  | wrongType
  | outOfRange
  | unsupported
  | malformed
  /-- A number is beyond all that can be computed with. -/
  | tooLarge
  /-- Something is nested too deeply. -/
  | tooDeep
  /-- A text does not have the form that it is declared to have. -/
  | misdeclared
  deriving Repr, DecidableEq, Inhabited

namespace FaultKind

/-- Whether the fault belongs to the planning core.  A missing route does not: it is an answer. -/
def isPlanning : FaultKind → Bool
  | unlocated | invalidFactor | unbuildable | unknownAgent | planning => true
  | _ => false

end FaultKind

inductive Fault (α : Type) where
  | unlocated (point : Point α)
  | noRoute (source target : Nat)
  | invalidFactor (sensor : String) (factor : α)
  | emptyBuilding
  /-- An exit of a region leads to a room that the building does not have. -/
  | unknownExit (region target : String)
  | unregistered (agent : Int)
  /-- A fault that a sensor from outside reports in its own words. -/
  | reported (kind : FaultKind) (text : String)
  | unknownCategory (name : Value α)
  | categoryFactorNotPositive (category : Category) (given : Value α)
  | notPositive (setting : Setting) (given : Value α)
  | negative (setting : Setting) (given : Value α)
  | notMapping (path : String)
  | duplicateRegion (region : String)
  /-- An outline of one or two points. -/
  | tooFewPoints
  | badOutline (region : String)
  | overlap (region other : String)
  | undeclaredRegion (region : String)
  | badExitArea
  | negativeDistance (given : α)
  | seedOutOfRange
  | densityOutOfRange (given : Value α)
  /-- An index that is no region of the network under the smoke simulation. -/
  | unmonitoredRegion (index : Int)
  | unmonitoredConnection (index : Int)
  | duplicateSensor (name : String)
  | duplicateAgent (agent : Int)
  | notConnected (source target : Int)
  | noRegionIndex (index : Int)
  | noConnectionIndex (index : Int)
  | noRegionNamed (region : String)
  | noSensorNamed (name : String)
  /-- A region's category has no entry in the factor table. -/
  | noCategoryFactor (label : String)
  /-- A connection starts at an index that is no region. -/
  | noSource (index : Int)
  /-- A value is of a kind that the operation on it does not admit. -/
  | wrongType
  | outOfRange
  /-- A sensor that observes nothing. -/
  | unsupported
  | malformedText
  /-- Texts that are declared to be numbers, truth values or moments and are none. -/
  | notInteger (base : Nat) (text : String)
  | notReal (text : String)
  | notTruth (text : String)
  | notMoment
  /-- An integer with more digits than are read. -/
  | numeralTooLong (digits : Nat)
  /-- An integer with more digits than are written. -/
  | unwritable
  | badMoment (flaw : MomentFlaw)
  /-- A number that is given for a character and stands for none. -/
  | noSuchCharacter
  | tooLarge
  | tooDeep
  deriving Inhabited

namespace Fault

def kind {α : Type} : Fault α → FaultKind
  | unlocated _ => .unlocated
  | noRoute _ _ => .noRoute
  | invalidFactor _ _ => .invalidFactor
  | emptyBuilding | unknownExit _ _ => .unbuildable
  | unregistered _ => .unknownAgent
  | reported kind _ => kind
  | noRegionIndex _ | noConnectionIndex _ | noRegionNamed _ | noSensorNamed _
  | noCategoryFactor _ | noSource _ | notTruth _ => .missingKey
  | wrongType => .wrongType
  | outOfRange => .outOfRange
  | unsupported => .unsupported
  | malformedText => .malformed
  | tooLarge => .tooLarge
  | tooDeep => .tooDeep
  | notMoment => .misdeclared
  | _ => .badValue

/-- Whether a sensor's fault only skips that sensor. -/
def skipsSensor {α : Type} (fault : Fault α) : Bool :=
  fault.kind.isPlanning && fault.kind != .invalidFactor

end Fault

/-- The number that a value is, to compute with. -/
def Value.number {α : Type} [Scalar α] : Value α → Except (Fault α) α
  | .bool value => .ok (Scalar.ofInt (Value.boolInt value))
  | .int value => if Scalar.holds α value then .ok (Scalar.ofInt value) else .error .tooLarge
  | .real value => .ok value
  | _ => .error .wrongType

end Egress
