/-!
# Heaps

A heap is an array read as a tree: the children of the entry at `i` stand at `2 i + 1` and
`2 i + 2`.  A new entry starts at the end and rises while it comes before its parent.  When the
first entry is taken out, the last one takes its place, sinks to the bottom along the children that
come first, and rises again from there.

Where the order is total and no parent comes after a child, the first entry comes before all others.
With entries that cannot be compared the outcome still depends on nothing but the entries and the
sequence of calls.
-/

namespace Egress.Heap

variable {β : Type}

/-- Exchange an entry with its parent while it comes before it. -/
def rise (before : β → β → Bool) (heap : Array β) (place : Nat) : Array β :=
  if place = 0 then heap
  else
    let parent := (place - 1) / 2
    match heap[place]?, heap[parent]? with
    | some entry, some above =>
      if before entry above then rise before (heap.swapIfInBounds place parent) parent else heap
    | _, _ => heap
termination_by place
decreasing_by omega

/-- The child of a place that comes first; of two that do not come before each other the second. -/
def firstChild (before : β → β → Bool) (heap : Array β) (place : Nat) : Nat :=
  let child := 2 * place + 1
  match heap[child]?, heap[child + 1]? with
  | some left, some right => if before left right then child else child + 1
  | _, _ => child

theorem place_lt_firstChild (before : β → β → Bool) (heap : Array β) (place : Nat) :
    place < firstChild before heap place := by
  unfold firstChild
  simp only []
  split
  · split <;> omega
  · omega

/-- Exchange an entry with its first child down to the bottom, and give the place reached. -/
def sink (before : β → β → Bool) (heap : Array β) (place : Nat) : Array β × Nat :=
  if 2 * place + 1 < heap.size then
    let child := firstChild before heap place
    sink before (heap.swapIfInBounds place child) child
  else (heap, place)
termination_by heap.size - place
decreasing_by
  have deeper := place_lt_firstChild before heap place
  simp only [Array.size_swapIfInBounds]
  omega

def push (before : β → β → Bool) (heap : Array β) (entry : β) : Array β :=
  rise before (heap.push entry) heap.size

/-- The first entry, and the heap without it. -/
def pop? (before : β → β → Bool) (heap : Array β) : Option (β × Array β) :=
  match heap[0]?, heap.back? with
  | some first, some last =>
    let rest := heap.pop
    if rest.isEmpty then some (first, rest)
    else
      let (sunk, place) := sink before (rest.setIfInBounds 0 last) 0
      some (first, rise before sunk place)
  | _, _ => none

theorem size_rise (before : β → β → Bool) (heap : Array β) (place : Nat) :
    (rise before heap place).size = heap.size := by
  fun_induction rise before heap place <;> simp_all

theorem size_push (before : β → β → Bool) (heap : Array β) (entry : β) :
    (push before heap entry).size = heap.size + 1 := by
  simp [push, size_rise]

end Egress.Heap
