/-!
# Pairs of doubles

A pair of doubles stands for their sum.  The second holds what does not fit into the first, so that
a pair has about twice the digits of a double.  Sums and products of two doubles are pairs without
any rounding; the operations on pairs round in the last digits of the second double.
-/

namespace Egress.Number

structure Pair where
  high : Float
  low : Float
  deriving Inhabited

namespace Pair

def ofFloat (value : Float) : Pair := ⟨value, 0⟩

/-- The nearest double. -/
def value (pair : Pair) : Float := pair.high + pair.low

/-- The sum of two doubles, and what rounding takes from it. -/
def sum (first second : Float) : Pair :=
  let high := first + second
  let added := high - first
  ⟨high, (second - added) + (first - (high - added))⟩

/-- The sum of two doubles of which the first is the larger one. -/
def sumOrdered (large small : Float) : Pair :=
  let high := large + small
  ⟨high, small + (large - high)⟩

/-- The upper half of the digits of a double. -/
def upper (value : Float) : Float :=
  let scaled := 134217729 * value
  scaled - (scaled - value)

/-- The product of two doubles, and what rounding takes from it: the halves of the digits are
multiplied on their own, which leaves nothing to round. -/
def product (first second : Float) : Pair :=
  let high := first * second
  let a := upper first
  let b := first - a
  let c := upper second
  let d := second - c
  ⟨high, a * c - high + a * d + b * c + b * d⟩

def neg (pair : Pair) : Pair := ⟨-pair.high, -pair.low⟩

def add (first second : Pair) : Pair :=
  let highs := sum first.high second.high
  let lows := sum first.low second.low
  let joined := sumOrdered highs.high (highs.low + lows.high)
  sumOrdered joined.high (lows.low + joined.low)

def sub (first second : Pair) : Pair := first.add second.neg

def mul (first second : Pair) : Pair :=
  let highs := product first.high second.high
  sumOrdered highs.high (highs.low + (first.high * second.low + first.low * second.high))

/-- The quotient of the first doubles, and a second digit group from what it leaves of the
dividend. -/
def div (first second : Pair) : Pair :=
  let quotient := first.high / second.high
  let back := product quotient second.high
  let rest := first.high - back.high - back.low + first.low - quotient * second.low
  sumOrdered quotient (rest / second.high)

/-- The sign of a pair, as its order to zero. -/
def sign (pair : Pair) : Ordering :=
  if pair.high < 0 then .lt
  else if 0 < pair.high then .gt
  else if pair.low < 0 then .lt
  else if 0 < pair.low then .gt
  else .eq

end Pair

end Egress.Number
