import Egress.Moment
import Egress.Number.Numeral

/-!
# What plain scalars stand for

The way a plain scalar is written decides whether it is a truth value, a number, a moment, nothing
at all, or a text.  The forms are those of YAML 1.1: integers in five notations, with underscores
between digits; decimal numbers with a point, an exponent with a sign, and base sixty; and a handful
of words.  A line break at the end does not count.
-/

namespace Egress.Yaml

/-- What a plain scalar is. -/
inductive Form where
  | null
  | bool
  | int
  | float
  | date
  /-- The key under which a mapping takes over the entries of others. -/
  | merge
  /-- The mark of a default value. -/
  | preset
  /-- A mark of the language that stands for nothing. -/
  | indicator
  | text
  deriving Repr, DecidableEq

namespace Form

/-- A text without a leading sign. -/
def unsigned : List Char → List Char
  | '+' :: rest => rest
  | '-' :: rest => rest
  | chars => chars

def isDigitOrGap (char : Char) : Bool := char.isDigit || char == '_'

def nonempty (test : Char → Bool) (chars : List Char) : Bool := !chars.isEmpty && chars.all test

/-- One or more parts of at most two digits below sixty, each after a colon; gives what follows
them. -/
def sixties (turns : Nat) (chars : List Char) (some? : Bool) : Option (List Char) :=
  match turns, chars with
  | turns + 1, ':' :: a :: b :: rest =>
    if '0' ≤ a ∧ a ≤ '5' ∧ b.isDigit then sixties turns rest true
    else if a.isDigit then sixties turns (b :: rest) true
    else if some? then some chars else none
  | _, [':', a] => if a.isDigit then some [] else if some? then some chars else none
  | _, _ => if some? then some chars else none

def isInt (chars : List Char) : Bool :=
  match unsigned chars with
  | '0' :: 'b' :: digits => nonempty (fun c => c == '0' || c == '1' || c == '_') digits
  | '0' :: 'x' :: digits =>
    nonempty (fun c => c.isDigit || ('a' ≤ c && c ≤ 'f') || ('A' ≤ c && c ≤ 'F') || c == '_') digits
  | ['0'] => true
  | '0' :: digits => nonempty (fun c => ('0' ≤ c && c ≤ '7') || c == '_') digits
  | digit :: rest =>
    digit.isDigit &&
      let after := rest.dropWhile isDigitOrGap
      after.isEmpty || sixties after.length after false == some []
  | [] => false

/-- An exponent with a sign, or nothing. -/
def isExponent : List Char → Bool
  | [] => true
  | mark :: sign :: digits =>
    (mark == 'e' || mark == 'E') && (sign == '+' || sign == '-') && nonempty Char.isDigit digits
  | _ => false

def isFloat (chars : List Char) : Bool :=
  let bare := unsigned chars
  let word := String.ofList bare
  let signed := bare.length != chars.length
  word == ".inf" || word == ".Inf" || word == ".INF" ||
    (!signed && (word == ".nan" || word == ".NaN" || word == ".NAN")) ||
    match bare with
    | '.' :: digit :: rest =>
      !signed && digit.isDigit && isExponent (rest.dropWhile isDigitOrGap)
    | digit :: rest =>
      digit.isDigit &&
        match rest.dropWhile isDigitOrGap with
        | '.' :: more => isExponent (more.dropWhile isDigitOrGap)
        | after =>
          match sixties after.length after false with
          | some ('.' :: more) => (more.dropWhile isDigitOrGap).isEmpty
          | _ => false
    | [] => false

/-- Digits, from `least` to `most` of them, and what follows. -/
def digits (least most : Nat) (chars : List Char) : Option (Nat × List Char) :=
  let found := (chars.take most).takeWhile Char.isDigit
  if least ≤ found.length then
    some (Number.digitsValue 10 found, chars.drop found.length)
  else none

def exactly (char : Char) : List Char → Option (List Char)
  | c :: rest => if c == char then some rest else none
  | [] => none

/-- Year, month and day joined by hyphens, the last two with so many digits at least. -/
def calendarDay (least : Nat) (chars : List Char) : Option (Moment × List Char) := do
  let (year, rest) ← digits 4 4 chars
  let (month, rest) ← digits least 2 (← exactly '-' rest)
  let (day, rest) ← digits least 2 (← exactly '-' rest)
  return (⟨year, month, day, none⟩, rest)

/-- What follows the mark between a day and a time. -/
def timeMark : List Char → Option (List Char)
  | 'T' :: rest | 't' :: rest => some rest
  | char :: rest => if isGap char then some (rest.dropWhile isGap) else none
  | [] => none
where
  isGap (char : Char) : Bool := char == ' ' || char == '\t'

/-- How far a clock is ahead, to the end of the text: a letter for universal time, or hours and
minutes with a sign. -/
def clockAhead (chars : List Char) : Option (Option Int) :=
  match chars.dropWhile timeMark.isGap with
  | [] => if chars.isEmpty then some none else none
  | ['Z'] => some (some 0)
  | sign :: rest => do
    if sign != '+' && sign != '-' then failure
    let (hours, rest) ← digits 1 2 rest
    let minutes ← if rest.isEmpty then some 0
      else do
        let (minutes, rest) ← digits 2 2 (← exactly ':' rest)
        if rest.isEmpty then some minutes else none
    let ahead : Int := 60 * hours + minutes
    return some (if sign == '-' then -ahead else ahead)

/-- The millionths of a second that the digits of a fraction stand for; further ones are dropped. -/
def millionths (fraction : List Char) : Nat :=
  Number.digitsValue 10 ((fraction ++ List.replicate 6 '0').take 6)

/-- A time of day to the end of the text. -/
def clockTime (chars : List Char) : Option ClockTime := do
  let (hour, rest) ← digits 1 2 chars
  let (minute, rest) ← digits 2 2 (← exactly ':' rest)
  let (second, rest) ← digits 2 2 (← exactly ':' rest)
  let (fraction, rest) := match rest with
    | '.' :: more => (more.takeWhile Char.isDigit, more.dropWhile Char.isDigit)
    | rest => ([], rest)
  return ⟨hour, minute, second, millionths fraction, ← clockAhead rest⟩

/-- The moment that a text describes, whether or not the calendar has it.  Without a time, month and
day have so many digits at least. -/
def moment? (least : Nat) (chars : List Char) : Option Moment :=
  match calendarDay least chars with
  | some (day, []) => some day
  | _ => do
    let (day, rest) ← calendarDay 1 chars
    return { day with time := some (← clockTime (← timeMark rest)) }

/-- A text without a line break at its end. -/
def unended (chars : List Char) : List Char :=
  if chars.getLast? == some '\n' then chars.dropLast else chars

def truths : List (String × Bool) :=
  [("yes", true), ("no", false), ("true", true), ("false", false), ("on", true), ("off", false)]

/-- Whether a text is a word in small letters, with a capital, or in capitals. -/
def isWordIn (word written : String) : Bool :=
  written == word || written == word.capitalize || written == word.toUpper

def of (whole : String) : Form :=
  let chars := unended whole.toList
  let written := String.ofList chars
  if whole == "\n" then .text
  else if truths.any fun (word, _) => isWordIn word written then .bool
  else if isFloat chars then .float
  else if isInt chars then .int
  else if written == "<<" then .merge
  else if written.isEmpty || written == "~" || isWordIn "null" written then .null
  else if (moment? 2 chars).isSome then .date
  else if written == "=" then .preset
  else if written == "!" || written == "&" || written == "*" then .indicator
  else .text

/-- The characters between marks, and so many parts as there are marks and one more. -/
def split (mark : Char) (chars : List Char) : List (List Char) :=
  chars.foldr (fun char parts =>
    if char == mark then [] :: parts
    else
      match parts with
      | part :: rest => (char :: part) :: rest
      | [] => [[char]]) [[]]

end Form

end Egress.Yaml
