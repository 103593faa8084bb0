import Egress.Number.Digits

/-!
# How numbers are written

Three ways to write a double: the shortest text that reads back (in messages), a fixed count of
significant digits with an exponent (in measurements), and a fixed count of decimal places (in
summaries).  What distinguishes the formats is the decisions in `shortestText`; the digits come
from exact rounding.
-/

namespace Egress.Number

/-- A natural number in decimal, padded with zeros on the left to `width` digits. -/
def padded (width : Nat) (value : Nat) : String :=
  let text := toString value
  "".pushn '0' (width - text.length) ++ text

/-- Sign and at least two digits. -/
def exponentText (exponent : Int) : String :=
  (if exponent < 0 then "e-" else "e+") ++ padded 2 exponent.natAbs

def signText (negative : Bool) : String := if negative then "-" else ""

/-- A leading digit, a point and the other digits, or the digit alone. -/
def pointed (digits : List Char) : String :=
  match digits with
  | [] => ""
  | [digit] => digit.toString
  | digit :: others => String.ofList (digit :: '.' :: others)

/-- Drop zeros at the end, but keep the first digit. -/
def trimZeros (digits : List Char) : List Char :=
  match (digits.reverse.dropWhile (· == '0')).reverse with
  | [] => ['0']
  | kept => kept

/-- Digits with the point where the exponent of the leading digit puts it; a whole number ends in
`.0`. -/
def positional (digits : List Char) (exponent : Int) : String :=
  if exponent < 0 then
    "0." ++ "".pushn '0' (exponent.natAbs - 1) ++ String.ofList digits
  else
    let whole := exponent.toNat + 1
    let front := digits.take whole
    let back := digits.drop whole
    String.ofList (front ++ List.replicate (whole - front.length) '0') ++ "." ++
      (if back.isEmpty then "0" else String.ofList back)

/-- The shortest text that reads back: positional for decimal exponents from `-4` to `15`, with an
exponent of at least two digits beyond them. -/
def shortestText (value : Float) : String :=
  match parts value with
  | .undefined => "nan"
  | .infinite negative => signText negative ++ "inf"
  | .finite negative mantissa exponent =>
    if mantissa = 0 then signText negative ++ "0.0"
    else
      let (decimal, count) := shortest mantissa exponent
      let digits := trimZeros (padded count decimal.digits).toList
      signText negative ++
        if -4 ≤ decimal.exponent ∧ decimal.exponent < 16 then positional digits decimal.exponent
        else pointed digits ++ exponentText decimal.exponent

/-- `places + 1` significant digits and an exponent; zero carries no sign. -/
def scientific (places : Nat) (value : Float) : String :=
  match parts value with
  | .undefined => "nan"
  | .infinite negative => signText negative ++ "inf"
  | .finite negative mantissa exponent =>
    if mantissa = 0 then pointed (List.replicate (places + 1) '0') ++ exponentText 0
    else
      let (num, den) := scale 2 mantissa 1 exponent
      let decimal := significant (places + 1) num den
      signText negative ++ pointed (padded (places + 1) decimal.digits).toList ++
        exponentText decimal.exponent

/-- A fixed count of decimal places. -/
def fixed (places : Nat) (value : Float) : String :=
  match parts value with
  | .undefined => "nan"
  | .infinite negative => signText negative ++ "inf"
  | .finite negative mantissa exponent =>
    let (num, den) := scale 2 mantissa 1 exponent
    let units := roundQuotient (num * Nat.pow 10 places) den
    let text := (padded (places + 1) units).toList
    let whole := text.length - places
    signText negative ++ String.ofList (text.take whole) ++
      (if places = 0 then "" else "." ++ String.ofList (text.drop whole))

end Egress.Number
