import Egress.Number.Double

/-!
# Arithmetic of costs and densities

Costs, factors, densities and coordinates are numbers of one type, and the planner asks little of
it: sums, products, a decidable order, a test for finite values and numerals.  The running program
uses doubles; exact rationals are the second instance, at which statements about totals hold
without rounding.

Comparisons may be partial: a value that is not a number compares false with everything, and
`larger` and `smaller` keep their first argument in that case.
-/

namespace Egress

/-- What the planner asks of its numbers. -/
class Scalar (α : Type) extends Add α, Mul α, LT α, LE α where
  /-- The number of an integer, rounded where the type cannot hold it. -/
  ofInt : Int → α
  /-- Whether an integer is within the bounds of the type. -/
  holds : Int → Bool
  /-- The integer that a number is, if it is one. -/
  toInt? : α → Option Int
  /-- `mantissa · 10 ^ exponent`, the exponent negative if the flag is set. -/
  decimal : Nat → Bool → Nat → α
  /-- Neither infinite nor undefined. -/
  isFinite : α → Bool
  ltDecidable : DecidableLT α
  leDecidable : DecidableLE α

namespace Scalar

variable {α : Type} [Scalar α]

instance : DecidableLT α := ltDecidable

instance : DecidableLE α := leDecidable

/-- Numerals with a decimal point. -/
instance (priority := low) : OfScientific α := ⟨Scalar.decimal⟩

def zero : α := ofInt 0

def one : α := ofInt 1

/-- The second argument if it exceeds the first, and the first otherwise. -/
def larger (first second : α) : α := if first < second then second else first

/-- The second argument if it lies below the first, and the first otherwise. -/
def smaller (first second : α) : α := if second < first then second else first

/-- Usable as a cost factor: finite and above zero. -/
def isFactor (value : α) : Bool := isFinite value && decide (zero < value)

end Scalar

instance : Scalar Float where
  ofInt := Float.ofInt
  holds value := (Float.ofInt value).isFinite
  toInt? value :=
    if value.isFinite then
      let exact := Number.exact value
      if exact.den = 1 then some exact.num else none
    else none
  decimal := Float.ofScientific
  isFinite := Float.isFinite
  ltDecidable := inferInstance
  leDecidable := inferInstance

instance : Scalar Rat where
  ofInt value := value
  holds _ := true
  toInt? value := if value.den = 1 then some value.num else none
  decimal := OfScientific.ofScientific
  isFinite _ := true
  ltDecidable := inferInstance
  leDecidable := inferInstance

end Egress
