/-!
# Days and times of day

A moment is a day of the calendar, and a time on it if one is given.  The time may say how far the
clock is ahead of universal time.  Moments with such clocks are one moment if they are so in
universal time; all others have to agree part by part.
-/

namespace Egress

/-- A time of day. -/
structure ClockTime where
  hour : Nat
  minute : Nat
  second : Nat
  micro : Nat
  /-- How many minutes the clock is ahead of universal time, if that is known. -/
  ahead : Option Int
  deriving Repr, DecidableEq, Inhabited

structure Moment where
  year : Nat
  month : Nat
  day : Nat
  time : Option ClockTime
  deriving Repr, DecidableEq, Inhabited

/-- The first part of a moment that the calendar or the clock does not have. -/
inductive MomentFlaw where
  | ahead (minutes : Int)
  | year (given : Nat)
  | month
  | day
  | hour
  | minute
  | second
  deriving Repr, DecidableEq, Inhabited

namespace Moment

def isLeap (year : Nat) : Bool := year % 4 == 0 && (year % 100 != 0 || year % 400 == 0)

def daysIn (year month : Nat) : Nat :=
  if month == 2 then if isLeap year then 29 else 28
  else if month == 4 || month == 6 || month == 9 || month == 11 then 30
  else 31

def dayFlaw? (year month day : Nat) : Option MomentFlaw :=
  if year == 0 || 9999 < year then some (.year year)
  else if month == 0 || 12 < month then some .month
  else if day == 0 || daysIn year month < day then some .day
  else none

def timeFlaw? (time : ClockTime) : Option MomentFlaw :=
  if 23 < time.hour then some .hour
  else if 59 < time.minute then some .minute
  else if 59 < time.second then some .second
  else none

/-- Whether a clock is a day or more ahead of universal time or behind it. -/
def aheadFlaw? (time : ClockTime) : Option MomentFlaw :=
  match time.ahead with
  | some minutes => if 24 * 60 ≤ minutes.natAbs then some (.ahead minutes) else none
  | none => none

/-- The first flaw of a moment: the offset of the clock is looked at first, then the day, then the
time. -/
def flaw? (moment : Moment) : Option MomentFlaw :=
  (moment.time.bind aheadFlaw?).or
    ((dayFlaw? moment.year moment.month moment.day).or (moment.time.bind timeFlaw?))

/-- How many days there are before a day, in the years and months before it and in its month. -/
def dayNumber (year month day : Nat) : Nat :=
  let past := year - 1
  365 * past + past / 4 - past / 100 + past / 400 +
    (List.range (month - 1)).foldl (fun sum index => sum + daysIn year (index + 1)) 0 + day

/-- The microseconds of universal time up to a moment whose clock is so much ahead. -/
def universal (moment : Moment) (time : ClockTime) (ahead : Int) : Int :=
  let minutes : Int := (dayNumber moment.year moment.month moment.day * 24 + time.hour) * 60 +
    time.minute
  ((minutes - ahead) * 60 + time.second) * 1000000 + time.micro

/-- Whether two moments are one. -/
def same (first second : Moment) : Bool :=
  match first.time, second.time with
  | some a, some b =>
    match a.ahead, b.ahead with
    | some x, some y => first.universal a x == second.universal b y
    | _, _ => first == second
  | _, _ => first == second

theorem same_refl (moment : Moment) : same moment moment = true := by
  unfold same
  split
  · split <;> simp_all
  · simp

end Moment

end Egress
