import Egress.Number.Double
import Egress.Unicode.Digit

/-!
# Numbers as they are written

Readers of integers and decimal numbers.  Digits of every script count, blanks around a number do
not, and there may be a sign in front.  Where the base is two, eight or sixteen its mark may stand
before the digits.  Decimal integers of very many digits are refused, since reading them takes a
time that grows with the square of their length.
-/

namespace Egress.Number

/-- Why a text is no integer. -/
inductive NumeralFlaw where
  | malformed
  /-- It has this many decimal digits. -/
  | tooLong (digits : Nat)
  deriving Repr, DecidableEq

/-- How many decimal digits an integer may have where it is read or written. -/
def digitLimit : Nat := 4300

/-- Whether an integer has few enough digits to be written. -/
def isWritable (value : Int) : Bool := decide (value.natAbs < Nat.pow 10 digitLimit)

/-- A digit of any script as one of the usual ten. -/
def usualDigit (char : Char) : Char := (Unicode.digit? char).elim char Nat.digitChar

/-- A text without blanks around it, its digits made usual. -/
def bareNumeral (chars : List Char) : List Char :=
  let chars := chars.dropWhile Unicode.isBlank
  (chars.reverse.dropWhile Unicode.isBlank).reverse.map usualDigit

/-- Take a sign off. -/
def unsigned : List Char → Bool × List Char
  | '-' :: rest => (true, rest)
  | '+' :: rest => (false, rest)
  | chars => (false, chars)

/-- What a digit or a letter stands for in bases up to thirty-six. -/
def digitValue? (char : Char) : Option Nat :=
  if char.isDigit then some (char.toNat - '0'.toNat)
  else if char.isAlpha then some (char.toLower.toNat - 'a'.toNat + 10)
  else none

/-- Whether a character is a digit in a base. -/
def isDigitIn (base : Nat) (char : Char) : Bool := (digitValue? char).any (· < base)

/-- The number that digits stand for in a base. -/
def digitsValue (base : Nat) (digits : List Char) : Nat :=
  digits.foldl (fun sum char => base * sum + (digitValue? char).getD 0) 0

/-- Take the mark of a base off. -/
def withoutMark (base : Nat) : List Char → List Char
  | '0' :: mark :: digits =>
    let mark := mark.toLower
    if (base == 16 && mark == 'x') || (base == 8 && mark == 'o') || (base == 2 && mark == 'b') then
      digits
    else '0' :: mark :: digits
  | chars => chars

/-- The integer that a text stands for in a base of two, eight, ten or sixteen. -/
def readInteger (base : Nat) (chars : List Char) : Except NumeralFlaw Int :=
  let (negative, chars) := unsigned (bareNumeral chars)
  let chars := withoutMark base chars
  let digits := chars.takeWhile (isDigitIn base)
  if base == 10 && digitLimit < digits.length then .error (.tooLong digits.length)
  else if digits.isEmpty || digits.length != chars.length then .error .malformed
  else
    let magnitude : Int := digitsValue base digits
    .ok (if negative then -magnitude else magnitude)

/-- The exponent behind a decimal number; nothing if there is something else. -/
def readExponent : List Char → Option Int
  | [] => some 0
  | mark :: rest =>
    let (negative, digits) := unsigned rest
    if (mark == 'e' || mark == 'E') && !digits.isEmpty && digits.all Char.isDigit then
      let magnitude : Int := digitsValue 10 digits
      some (if negative then -magnitude else magnitude)
    else none

/-- A decimal number without a sign: digits with a point among them or not, and an exponent, or the
name of the infinite or undefined one. -/
def readMagnitude (chars : List Char) : Option Float :=
  let word := (String.ofList chars).toLower
  if word == "inf" || word == "infinity" then some (1.0 / 0.0)
  else if word == "nan" then some (0.0 / 0.0)
  else
    let whole := chars.takeWhile Char.isDigit
    let (fraction, after) := match chars.dropWhile Char.isDigit with
      | '.' :: more => (more.takeWhile Char.isDigit, more.dropWhile Char.isDigit)
      | after => ([], after)
    if whole.isEmpty && fraction.isEmpty then none
    else do
      let scale := (← readExponent after) - fraction.length
      return Float.ofScientific (digitsValue 10 (whole ++ fraction)) (scale < 0) scale.natAbs

/-- The double nearest to the decimal number that a text stands for. -/
def readReal (chars : List Char) : Option Float :=
  let (negative, chars) := unsigned (bareNumeral chars)
  (readMagnitude chars).map fun value => if negative then -value else value

end Egress.Number
