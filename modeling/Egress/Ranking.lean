/-!
# Rankings

Items are put in order by insertion.  A run at the beginning that is in order already, or in reverse
order throughout, is taken over as a whole; every other item is inserted behind all that it does not
come before, at the place that halving the ranking again and again leads to.

Where the order is total the result is sorted, and items that do not come before each other keep
their order.
-/

namespace Egress.Ranking

variable {β : Type}

/-- How many items at the beginning go on as the first two do: each before the one in front of it,
or none. -/
def runLength (goesOn : β → β → Bool) (previous : β) : List β → Nat
  | [] => 0
  | item :: rest => if goesOn previous item then 1 + runLength goesOn item rest else 0

/-- The run at the beginning, in order, and the items behind it. -/
def firstRun (before : β → β → Bool) : List β → List β × List β
  | first :: second :: rest =>
    let items := first :: second :: rest
    if before second first then
      let count := 2 + runLength (fun previous item => before item previous) second rest
      ((items.take count).reverse, items.drop count)
    else
      let count := 2 + runLength (fun previous item => !before item previous) second rest
      (items.take count, items.drop count)
  | items => (items, [])

/-- Halve the stretch from `low` to `high` until the place of an item is left. -/
def placeIn (before : β → β → Bool) (ranked : List β) (item : β) (low high : Nat) : Nat :=
  if low < high then
    let middle := low + (high - low) / 2
    match ranked[middle]? with
    | some other =>
      if before item other then placeIn before ranked item low middle
      else placeIn before ranked item (middle + 1) high
    | none => low
  else low
termination_by high - low
decreasing_by all_goals omega

def insert (before : β → β → Bool) (ranked : List β) (item : β) : List β :=
  ranked.insertIdx (placeIn before ranked item 0 ranked.length) item

/-- The items in order. -/
def ofList (before : β → β → Bool) (items : List β) : List β :=
  let (run, rest) := firstRun before items
  rest.foldl (insert before) run

end Egress.Ranking
