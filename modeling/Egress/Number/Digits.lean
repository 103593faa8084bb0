import Egress.Number.Double

/-!
# Decimal digits

Two ways to write a positive number in decimal: rounded to a given count of significant digits, or
with as few digits as identify a double.  The second takes the interval of reals that round to the
double, ends included iff the mantissa is even, and looks at the two neighbours of the value on
the grids of one, two, … seventeen digits; the first grid with a neighbour in the interval wins.
-/

namespace Egress.Number

/-- `digits · 10 ^ (exponent − count + 1)`, where `count` is the number of digits: the exponent is
that of the leading digit. -/
structure Decimal where
  digits : Nat
  exponent : Int
  deriving Repr, DecidableEq

/-- The positive quotient `num / den` rounded to `count` significant digits. -/
def significant (count num den : Nat) : Decimal :=
  let exponent := decade num den
  let (n, d) := scale 10 num den ((count : Int) - 1 - exponent)
  let digits := roundQuotient n d
  if digits = Nat.pow 10 count then ⟨Nat.pow 10 (count - 1), exponent + 1⟩
  else ⟨digits, exponent⟩

/-- The reals that round to one double: `low / den` to `high / den`. -/
structure RoundingInterval where
  low : Nat
  value : Nat
  high : Nat
  den : Nat
  closed : Bool
  deriving Repr, DecidableEq

/-- The interval of `mantissa · 2 ^ exponent`, in quarters of its last place: below a power of two
the neighbours lie only half as far apart. -/
def RoundingInterval.of (mantissa : Nat) (exponent : Int) : RoundingInterval :=
  let narrow := mantissa = Nat.pow 2 52 ∧ lowestExponent < exponent
  let (low, den) := scale 2 (4 * mantissa - if narrow then 1 else 2) 4 exponent
  let (value, _) := scale 2 (4 * mantissa) 4 exponent
  let (high, _) := scale 2 (4 * mantissa + 2) 4 exponent
  ⟨low, value, high, den, mantissa % 2 = 0⟩

/-- Whether `num / den` rounds to the interval's double. -/
def RoundingInterval.contains (interval : RoundingInterval) (num den : Nat) : Bool :=
  let point := num * interval.den
  let low := interval.low * den
  let high := interval.high * den
  decide (low < point ∧ point < high) ||
    interval.closed && (decide (low = point) || decide (point = high))

/-- The grid point of `count` digits that identifies the double, if there is one: of two the nearer,
of two equally near the even one. -/
def RoundingInterval.onGrid? (interval : RoundingInterval) (exponent : Int) (count : Nat) :
    Option Decimal :=
  let shift := (count : Int) - 1 - exponent
  let (n, d) := scale 10 interval.value interval.den shift
  let below := n / d
  let (unitNum, unitDen) := scale 10 1 1 (-shift)
  let holds := fun digits => interval.contains (digits * unitNum) unitDen
  let raised : Decimal :=
    if below + 1 = Nat.pow 10 count then ⟨Nat.pow 10 (count - 1), exponent + 1⟩
    else ⟨below + 1, exponent⟩
  match holds below, holds (below + 1) with
  | true, true => if roundQuotient n d = below then some ⟨below, exponent⟩ else some raised
  | true, false => some ⟨below, exponent⟩
  | false, true => some raised
  | false, false => none

/-- Try the grids from `count` digits on. -/
def RoundingInterval.search (interval : RoundingInterval) (exponent : Int) :
    Nat → Nat → Decimal × Nat
  | 0, count => (significant count interval.value interval.den, count)
  | more + 1, count =>
    match interval.onGrid? exponent count with
    | some found => (found, count)
    | none => interval.search exponent more (count + 1)

/-- The fewest digits that read back as the positive double `mantissa · 2 ^ exponent`, with their
count.  Seventeen always suffice. -/
def shortest (mantissa : Nat) (exponent : Int) : Decimal × Nat :=
  let interval := RoundingInterval.of mantissa exponent
  interval.search (decade interval.value interval.den) 16 1

end Egress.Number
