import Egress.Moment
import Egress.Scalar

/-!
# Setting values

Settings come from files and messages in which a value may be of any kind, and an unsuitable kind
is only refused where the value is used.  So settings keep the value as it was given, and each use
asks for the view it needs: a number, a truth value, a mapping.

Truth values count as the numbers zero and one; no text counts as a number.  An integer may be
beyond all numbers of the planner: in comparisons it counts as infinite, and computing with it is a
fault.
-/

namespace Egress

inductive Value (α : Type) where
  | null
  | bool (value : Bool)
  | int (value : Int)
  | real (value : α)
  | text (value : String)
  | bytes (value : List UInt8)
  | moment (value : Moment)
  | list (items : List (Value α))
  | mapping (entries : List (Value α × Value α))
  /-- Where a value that holds itself is cut off. -/
  | endless
  deriving Inhabited

namespace Value

variable {α : Type} [Scalar α]

def boolInt (value : Bool) : Int := if value then 1 else 0

/-- The value as a number, if it is one.  What is beyond all numbers comes out infinite. -/
def number? : Value α → Option α
  | .bool value => some (Scalar.ofInt (boolInt value))
  | .int value => some (Scalar.ofInt value)
  | .real value => some value
  | _ => none

/-- The value as an integer, if it is of an integral kind. -/
def integer? : Value α → Option Int
  | .bool value => some (boolInt value)
  | .int value => some value
  | _ => none

/-- Whether a value counts as true: empty, zero and absent values do not. -/
def truthy : Value α → Bool
  | .null => false
  | .bool value => value
  | .int value => value != 0
  | .real value => !(decide (value ≤ Scalar.zero) && decide (Scalar.zero ≤ value))
  | .text value => !value.isEmpty
  | .bytes value => !value.isEmpty
  | .moment _ => true
  | .list items => !items.isEmpty
  | .mapping entries => !entries.isEmpty
  | .endless => true

/-- The integer that a value is as a key, if it is one: a number without a fraction is the same key
as the integer. -/
def wholeKey? : Value α → Option Int
  | .real value => Scalar.toInt? value
  | value => value.integer?

/-- Whether two values are one key of a mapping.  Numbers are compared exactly, whatever their kind;
collections are no keys. -/
def sameKey (first second : Value α) : Bool :=
  match first, second with
  | .null, .null => true
  | .text a, .text b => a == b
  | .bytes a, .bytes b => a == b
  | .moment a, .moment b => a.same b
  | .real a, .real b => decide (a ≤ b) && decide (b ≤ a)
  | a, b =>
    match a.wholeKey?, b.wholeKey? with
    | some x, some y => x == y
    | _, _ => false

/-- Whether a value can be a key. -/
def isKey : Value α → Bool
  | .list _ | .mapping _ | .endless => false
  | _ => true

/-- Write an entry: a key that is present keeps its place and takes the new value. -/
def put {β : Type} (entries : List (Value α × β)) (key : Value α) (value : β) :
    List (Value α × β) :=
  match entries with
  | [] => [(key, value)]
  | (k, v) :: rest =>
    if k.sameKey key then (k, value) :: rest else (k, v) :: put rest key value

/-- The entry under a text. -/
def field? (entries : List (Value α × Value α)) (name : String) : Option (Value α) :=
  (entries.find? fun entry => entry.1.sameKey (.text name)).map Prod.snd

end Value

end Egress
