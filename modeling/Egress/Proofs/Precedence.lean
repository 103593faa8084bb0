/-!
# Precedence

Heaps and rankings compare items by a test that says whether one item comes before another.  What
they promise rests on two properties of the test: no two items come before each other, and not
coming before is transitive.  Items that do not come before each other may still be different.

The properties are asked only of the items that are fit to be compared, because a test on numbers
says nothing sensible about values that are no numbers.
-/

namespace Egress

/-- The test puts the fit items into an order in which several may share one rank. -/
structure Precedence {β : Type} (before : β → β → Bool) (fit : β → Prop) : Prop where
  asymm : ∀ {first second}, fit first → fit second →
    before first second = true → before second first = false
  trans : ∀ {first second third}, fit first → fit second → fit third →
    before second first = false → before third second = false → before third first = false

namespace Precedence

variable {β : Type} {before : β → β → Bool} {fit : β → Prop}

/-- A test is a precedence if what it refuses is a total and transitive relation. -/
theorem of_total {atMost : β → β → Prop}
    (refuses : ∀ {first second}, fit first → fit second →
      (before second first = false ↔ atMost first second))
    (total : ∀ {first second}, fit first → fit second →
      atMost first second ∨ atMost second first)
    (trans : ∀ {first second third}, fit first → fit second → fit third →
      atMost first second → atMost second third → atMost first third) :
    Precedence before fit where
  asymm := by
    intro first second fitFirst fitSecond earlier
    rcases total fitFirst fitSecond with ahead | behind
    · exact (refuses fitFirst fitSecond).mpr ahead
    · rw [(refuses fitSecond fitFirst).mpr behind] at earlier
      exact Bool.noConfusion earlier
  trans := by
    intro first second third fitFirst fitSecond fitThird notSecond notThird
    exact (refuses fitFirst fitThird).mpr (trans fitFirst fitSecond fitThird
      ((refuses fitFirst fitSecond).mp notSecond) ((refuses fitSecond fitThird).mp notThird))

theorem irrefl (order : Precedence before fit) {item : β} (fitting : fit item) :
    before item item = false := by
  cases self : before item item with
  | false => rfl
  | true =>
    have reversed := order.asymm fitting fitting self
    rw [self] at reversed
    exact reversed

/-- An item keeps coming before what does not come before something behind it. -/
theorem before_of_before (order : Precedence before fit) {first second third : β}
    (fitFirst : fit first) (fitSecond : fit second) (fitThird : fit third)
    (earlier : before first second = true) (notEarlier : before third second = false) :
    before third first = false := by
  exact order.trans fitFirst fitSecond fitThird (order.asymm fitFirst fitSecond earlier) notEarlier

end Precedence

end Egress
