import Egress.Heap
import Egress.Proofs.Precedence

/-!
# The first entry of a heap

A heap is in order if no entry comes before its parent.  Then no entry comes before the first one,
which is why taking out the first entry serves those that wait in the right order.

An entry on its way up or down disturbs the order at one place only.  While it rises, it may come
before its parent; while it sinks, its children may come before it.  In both cases the children of
the place do not come before the parent of the place, so that the exchange with the parent or with
the first child repairs the old place and moves the disturbance on.
-/

namespace Egress.Heap

variable {β : Type} {before : β → β → Bool} {fit : β → Prop}

/-- The entry at a place does not come before the one at another place. -/
def Below (before : β → β → Bool) (heap : Array β) (place upper : Nat) : Prop :=
  ∀ entry above, heap[place]? = some entry → heap[upper]? = some above →
    before entry above = false

/-- No entry comes before its parent. -/
def InOrder (before : β → β → Bool) (heap : Array β) : Prop :=
  ∀ place, 0 < place → Below before heap place ((place - 1) / 2)

/-- The children of a place do not come before the parent of the place. -/
def Spanned (before : β → β → Bool) (heap : Array β) (place : Nat) : Prop :=
  0 < place → ∀ child, 0 < child → (child - 1) / 2 = place →
    Below before heap child ((place - 1) / 2)

/-- In order except that the entry at one place may come before its parent. -/
structure Rising (before : β → β → Bool) (heap : Array β) (place : Nat) : Prop where
  elsewhere : ∀ other, 0 < other → other ≠ place → Below before heap other ((other - 1) / 2)
  spanned : Spanned before heap place

/-- In order except that the entry at one place may stand in any order with its neighbours. -/
structure Sinking (before : β → β → Bool) (heap : Array β) (place : Nat) : Prop where
  elsewhere : ∀ other, 0 < other → other ≠ place → (other - 1) / 2 ≠ place →
    Below before heap other ((other - 1) / 2)
  spanned : Spanned before heap place

/-- All entries are fit to be compared. -/
def Fit (fit : β → Prop) (heap : Array β) : Prop := ∀ entry ∈ heap, fit entry

theorem mem_of_lookup {heap : Array β} {place : Nat} {entry : β}
    (found : heap[place]? = some entry) : entry ∈ heap := by
  rcases Array.getElem?_eq_some_iff.mp found with ⟨bound, same⟩
  exact same ▸ Array.getElem_mem bound

theorem lookup_swap {heap : Array β} {first second : Nat} {a b : β}
    (atFirst : heap[first]? = some a) (atSecond : heap[second]? = some b) (place : Nat) :
    (heap.swapIfInBounds first second)[place]? =
      if place = second then some a else if place = first then some b else heap[place]? := by
  rcases Array.getElem?_eq_some_iff.mp atFirst with ⟨firstBound, firstEntry⟩
  rcases Array.getElem?_eq_some_iff.mp atSecond with ⟨secondBound, secondEntry⟩
  rw [Array.swapIfInBounds_def, dif_pos firstBound, dif_pos secondBound, Array.getElem?_swap]
  by_cases isSecond : place = second
  · subst isSecond
    simp only [if_true, firstEntry]
  · by_cases isFirst : place = first
    · subst isFirst
      simp only [if_neg isSecond, if_neg (Ne.symm isSecond), if_true, secondEntry]
    · simp only [if_neg isSecond, if_neg (Ne.symm isSecond), if_neg isFirst,
        if_neg (Ne.symm isFirst)]

theorem swap_perm (heap : Array β) (first second : Nat) :
    (heap.swapIfInBounds first second).Perm heap := by
  rw [Array.swapIfInBounds_def]
  split
  · split
    · exact Array.swap_perm _ _
    · exact Array.Perm.refl _
  · exact Array.Perm.refl _

theorem Fit.of_perm {heap other : Array β} (fits : Fit fit heap) (same : other.Perm heap) :
    Fit fit other :=
  fun entry member => fits entry (same.mem_iff.mp member)

/-! ## Rising -/

/-- Exchanging an entry with its parent moves the disturbance to the parent. -/
theorem Rising.exchange (order : Precedence before fit) {heap : Array β} (fits : Fit fit heap)
    {place : Nat} (rising : Rising before heap place) (positive : place ≠ 0) {entry above : β}
    (atPlace : heap[place]? = some entry) (atParent : heap[(place - 1) / 2]? = some above)
    (early : before entry above = true) :
    Rising before (heap.swapIfInBounds place ((place - 1) / 2)) ((place - 1) / 2) := by
  have fitEntry := fits entry (mem_of_lookup atPlace)
  have fitAbove := fits above (mem_of_lookup atParent)
  have aboveNotEarly : before above entry = false := order.asymm fitEntry fitAbove early
  constructor
  · intro other otherPositive different item upper atOther atUpper
    rw [lookup_swap atPlace atParent, if_neg different] at atOther
    rw [lookup_swap atPlace atParent] at atUpper
    by_cases same : other = place
    · rw [if_pos same] at atOther
      rw [same, if_pos rfl] at atUpper
      cases atOther
      cases atUpper
      exact aboveNotEarly
    · rw [if_neg same] at atOther
      by_cases underPlace : (other - 1) / 2 = place
      · rw [if_neg (by omega), if_pos underPlace] at atUpper
        cases atUpper
        exact rising.spanned (by omega) other otherPositive underPlace item above atOther atParent
      · by_cases sibling : (other - 1) / 2 = (place - 1) / 2
        · rw [if_pos sibling] at atUpper
          cases atUpper
          have belowAbove := rising.elsewhere other otherPositive same item above atOther
            (sibling ▸ atParent)
          exact order.before_of_before fitEntry fitAbove (fits item (mem_of_lookup atOther))
            early belowAbove
        · rw [if_neg sibling, if_neg underPlace] at atUpper
          exact rising.elsewhere other otherPositive same item upper atOther atUpper
  · intro parentPositive child childPositive childOf item upper atChild atUpper
    rw [lookup_swap atPlace atParent, if_neg (by omega), if_neg (by omega)] at atUpper
    have parentBelow := rising.elsewhere ((place - 1) / 2) parentPositive (by omega) above upper
      atParent atUpper
    have fitUpper := fits upper (mem_of_lookup atUpper)
    rw [lookup_swap atPlace atParent, if_neg (by omega)] at atChild
    by_cases same : child = place
    · rw [if_pos same] at atChild
      cases atChild
      exact parentBelow
    · rw [if_neg same] at atChild
      have childBelow := rising.elsewhere child childPositive same item above atChild
        (childOf ▸ atParent)
      exact order.trans fitUpper fitAbove (fits item (mem_of_lookup atChild))
        parentBelow childBelow

/-- An entry that has risen as far as it can leaves a heap in order. -/
theorem rise_inOrder (order : Precedence before fit) (heap : Array β) (place : Nat)
    (fits : Fit fit heap) (rising : Rising before heap place) :
    InOrder before (rise before heap place) := by
  fun_induction rise before heap place with
  | case1 heap =>
    intro other positive
    exact rising.elsewhere other positive (by omega)
  | case2 heap place positive parent entry above atParent atPlace early hypothesis =>
    exact hypothesis (fits.of_perm (swap_perm _ _ _))
      (rising.exchange order fits positive atPlace atParent early)
  | case3 heap place positive parent entry above atParent atPlace notEarly =>
    intro other otherPositive
    by_cases same : other = place
    · subst same
      intro item upper atItem atUpper
      rw [atPlace] at atItem
      rw [show heap[(other - 1) / 2]? = some above from atParent] at atUpper
      cases atItem
      cases atUpper
      exact Bool.eq_false_iff.mpr notEarly
    · exact rising.elsewhere other otherPositive same
  | case4 heap place positive parent absent =>
    intro other otherPositive
    by_cases same : other = place
    · subst same
      intro item upper atItem atUpper
      exact (absent item upper atItem atUpper).elim
    · exact rising.elsewhere other otherPositive same

theorem rise_perm (before : β → β → Bool) (heap : Array β) (place : Nat) :
    (rise before heap place).Perm heap := by
  fun_induction rise before heap place with
  | case1 heap => exact Array.Perm.refl _
  | case2 heap place positive parent entry above atPlace atParent early hypothesis =>
    exact hypothesis.trans (swap_perm _ _ _)
  | case3 heap place positive parent entry above atPlace atParent notEarly =>
    exact Array.Perm.refl _
  | case4 heap place positive parent absent => exact Array.Perm.refl _

/-! ## Sinking -/

/-- Of the children of a place none comes before the first one. -/
theorem firstChild_spec (order : Precedence before fit) {heap : Array β} (fits : Fit fit heap)
    {place : Nat} (deeper : 2 * place + 1 < heap.size) :
    firstChild before heap place < heap.size ∧ (firstChild before heap place - 1) / 2 = place ∧
      ∀ other, 0 < other → (other - 1) / 2 = place →
        Below before heap other (firstChild before heap place) := by
  have leftFound := Array.getElem?_eq_getElem deeper
  have fitLeft := fits _ (mem_of_lookup leftFound)
  by_cases second : 2 * place + 1 + 1 < heap.size
  · have rightFound := Array.getElem?_eq_getElem second
    have fitRight := fits _ (mem_of_lookup rightFound)
    unfold firstChild
    simp only [leftFound, rightFound]
    split
    · rename_i early
      refine ⟨deeper, by omega, ?_⟩
      intro other positive childOf entry above atOther atChild
      rw [leftFound] at atChild
      cases atChild
      rcases (by omega : other = 2 * place + 1 ∨ other = 2 * place + 1 + 1) with isLeft | isRight
      · rw [isLeft, leftFound] at atOther
        cases atOther
        exact order.irrefl fitLeft
      · rw [isRight, rightFound] at atOther
        cases atOther
        exact order.asymm fitLeft fitRight early
    · rename_i notEarly
      refine ⟨second, by omega, ?_⟩
      intro other positive childOf entry above atOther atChild
      rw [rightFound] at atChild
      cases atChild
      rcases (by omega : other = 2 * place + 1 ∨ other = 2 * place + 1 + 1) with isLeft | isRight
      · rw [isLeft, leftFound] at atOther
        cases atOther
        exact Bool.eq_false_iff.mpr notEarly
      · rw [isRight, rightFound] at atOther
        cases atOther
        exact order.irrefl fitRight
  · have rightMissing : heap[2 * place + 1 + 1]? = none :=
      Array.getElem?_eq_none (Nat.le_of_not_lt second)
    unfold firstChild
    simp only [leftFound, rightMissing]
    refine ⟨deeper, by omega, ?_⟩
    intro other positive childOf entry above atOther atChild
    rcases (by omega : other = 2 * place + 1 ∨ other = 2 * place + 1 + 1) with isLeft | isRight
    · rw [isLeft] at atOther
      rw [atChild] at atOther
      cases atOther
      exact order.irrefl (fits _ (mem_of_lookup atChild))
    · rw [isRight, rightMissing] at atOther
      cases atOther

/-- Exchanging an entry with the first of its children moves the disturbance to the child. -/
theorem Sinking.exchange (order : Precedence before fit) {heap : Array β} (fits : Fit fit heap)
    {place : Nat} (sinking : Sinking before heap place) (deeper : 2 * place + 1 < heap.size) :
    Sinking before (heap.swapIfInBounds place (firstChild before heap place))
      (firstChild before heap place) := by
  have beyond := place_lt_firstChild before heap place
  rcases firstChild_spec order fits deeper with ⟨childBound, childOf, first⟩
  generalize firstChild before heap place = child at beyond childBound childOf first
  have atPlace := Array.getElem?_eq_getElem (show place < heap.size by omega)
  have atChild := Array.getElem?_eq_getElem childBound
  constructor
  · intro other positive different apart entry above atOther atUpper
    rw [lookup_swap atPlace atChild, if_neg different] at atOther
    rw [lookup_swap atPlace atChild, if_neg apart] at atUpper
    by_cases same : other = place
    · rw [if_pos same] at atOther
      rw [same, if_neg (by omega)] at atUpper
      cases atOther
      exact sinking.spanned (by omega) child (by omega) childOf _ above atChild atUpper
    · rw [if_neg same] at atOther
      by_cases sibling : (other - 1) / 2 = place
      · rw [if_pos sibling] at atUpper
        cases atUpper
        exact first other positive sibling entry _ atOther atChild
      · rw [if_neg sibling] at atUpper
        exact sinking.elsewhere other positive same sibling entry above atOther atUpper
  · intro positive grandchild grandPositive grandOf entry above atGrand atUpper
    rw [lookup_swap atPlace atChild, childOf, if_neg (by omega), if_pos rfl] at atUpper
    cases atUpper
    rw [lookup_swap atPlace atChild, if_neg (by omega), if_neg (by omega)] at atGrand
    exact sinking.elsewhere grandchild grandPositive (by omega) (by omega) entry _ atGrand
      (grandOf.symm ▸ atChild)

/-- At the bottom an entry has no children that could come before it. -/
theorem sink_rising (order : Precedence before fit) (heap : Array β) (place : Nat)
    (fits : Fit fit heap) (sinking : Sinking before heap place) :
    Rising before (sink before heap place).1 (sink before heap place).2 := by
  fun_induction sink before heap place with
  | case1 heap place deeper child hypothesis =>
    exact hypothesis (fits.of_perm (swap_perm _ _ _)) (sinking.exchange order fits deeper)
  | case2 heap place bottom =>
    refine ⟨?_, sinking.spanned⟩
    intro other positive different
    by_cases childOf : (other - 1) / 2 = place
    · intro entry above atOther atUpper
      have bound := (Array.getElem?_eq_some_iff.mp atOther).1
      exact (bottom (by dsimp only at bound; omega)).elim
    · exact sinking.elsewhere other positive different childOf

theorem sink_perm (before : β → β → Bool) (heap : Array β) (place : Nat) :
    (sink before heap place).1.Perm heap := by
  fun_induction sink before heap place with
  | case1 heap place deeper child hypothesis => exact hypothesis.trans (swap_perm _ _ _)
  | case2 heap place bottom => exact Array.Perm.refl _

/-! ## Entering and leaving -/

theorem inOrder_empty : InOrder before (#[] : Array β) := by
  intro place positive entry above atPlace
  simp at atPlace

theorem push_perm (before : β → β → Bool) (heap : Array β) (entry : β) :
    (push before heap entry).Perm (heap.push entry) :=
  rise_perm before _ _

theorem mem_push {heap : Array β} {entry other : β} :
    other ∈ push before heap entry ↔ other ∈ heap ∨ other = entry :=
  (push_perm before heap entry).mem_iff.trans Array.mem_push

theorem push_inOrder (order : Precedence before fit) {heap : Array β} {entry : β}
    (fits : Fit fit heap) (fitting : fit entry) (inOrder : InOrder before heap) :
    InOrder before (push before heap entry) := by
  apply rise_inOrder order
  · intro other member
    rcases Array.mem_push.mp member with old | new
    · exact fits other old
    · exact new ▸ fitting
  · constructor
    · intro other positive different item above atOther atUpper
      have bound := (Array.getElem?_eq_some_iff.mp atOther).1
      rw [Array.size_push] at bound
      rw [Array.getElem?_push, if_neg different] at atOther
      rw [Array.getElem?_push, if_neg (by omega)] at atUpper
      exact inOrder other positive item above atOther atUpper
    · intro positive child childPositive childOf item above atChild
      have bound := (Array.getElem?_eq_some_iff.mp atChild).1
      rw [Array.size_push] at bound
      omega

/-- No entry of a heap in order comes before the first one. -/
theorem first_of_inOrder (order : Precedence before fit) {heap : Array β} (fits : Fit fit heap)
    (inOrder : InOrder before heap) {first : β} (atFirst : heap[0]? = some first) :
    ∀ entry ∈ heap, before entry first = false := by
  have byPlace : ∀ (place : Nat) (entry : β), heap[place]? = some entry →
      before entry first = false := by
    intro place
    induction place using Nat.strongRecOn with
    | ind place hypothesis =>
      intro entry atPlace
      by_cases zero : place = 0
      · rw [zero, atFirst] at atPlace
        cases atPlace
        exact order.irrefl (fits first (mem_of_lookup atFirst))
      · have bound := (Array.getElem?_eq_some_iff.mp atPlace).1
        have atParent := Array.getElem?_eq_getElem (show (place - 1) / 2 < heap.size by omega)
        exact order.trans (fits first (mem_of_lookup atFirst)) (fits _ (mem_of_lookup atParent))
          (fits entry (mem_of_lookup atPlace)) (hypothesis _ (by omega) _ atParent)
          (inOrder place (by omega) entry _ atPlace atParent)
  intro entry member
  rcases Array.mem_iff_getElem?.mp member with ⟨place, atPlace⟩
  exact byPlace place entry atPlace

/-- What is taken out stood first; what stood last goes down from its place. -/
theorem pop?_cases {heap rest : Array β} {first : β}
    (popped : pop? before heap = some (first, rest)) :
    heap[0]? = some first ∧ ∃ body last, heap = body.push last ∧
      (body = #[] ∧ rest = #[] ∨
        0 < body.size ∧ rest = rise before (sink before (body.setIfInBounds 0 last) 0).1
          (sink before (body.setIfInBounds 0 last) 0).2) := by
  unfold pop? at popped
  split at popped
  · rename_i head last atFirst atLast
    rcases Array.back?_eq_some_iff.mp atLast with ⟨body, whole⟩
    subst whole
    simp only [Array.pop_push] at popped
    split at popped
    · rename_i lone
      cases popped
      have empty := Array.isEmpty_iff.mp lone
      exact ⟨atFirst, rest, last, rfl, Or.inl ⟨empty, empty⟩⟩
    · rename_i others
      cases popped
      have inhabited : 0 < body.size := by
        apply Nat.pos_of_ne_zero
        intro zero
        exact others (Array.isEmpty_iff_size_eq_zero.mpr zero)
      exact ⟨atFirst, body, last, rfl, Or.inr ⟨inhabited, rfl⟩⟩
  · cases popped

theorem pop?_isSome {heap : Array β} (inhabited : 0 < heap.size) :
    (pop? before heap).isSome = true := by
  have atFirst := Array.getElem?_eq_getElem inhabited
  have atLast : heap.back? = some heap[heap.size - 1] := by
    rw [Array.back?_eq_getElem?]
    exact Array.getElem?_eq_getElem _
  unfold pop?
  simp only [atFirst, atLast]
  split <;> rfl

/-- Writing the last entry over the first and taking the first out are the same for the contents. -/
theorem set_first_perm {body : Array β} {first last : β} (atFirst : body[0]? = some first) :
    ((body.setIfInBounds 0 last).push first).Perm (body.push last) := by
  rcases body with ⟨entries⟩
  cases entries with
  | nil => simp at atFirst
  | cons head tail =>
    simp only [List.getElem?_toArray, List.getElem?_cons_zero, Option.some.injEq] at atFirst
    subst atFirst
    apply Array.perm_iff_toList_perm.mpr
    simp only [List.setIfInBounds_toArray, List.set_cons_zero, List.push_toArray]
    exact (List.perm_append_singleton head (last :: tail)).trans
      ((List.Perm.swap last head tail).trans
        (List.perm_append_singleton last (head :: tail)).symm)

/-- Taking out the first entry leaves the others. -/
theorem pop?_perm {heap rest : Array β} {first : β}
    (popped : pop? before heap = some (first, rest)) : heap.Perm (rest.push first) := by
  rcases pop?_cases popped with ⟨atFirst, body, last, rfl, ⟨rfl, rfl⟩ | ⟨inhabited, rfl⟩⟩
  · simp only [Array.push_empty, List.getElem?_toArray] at atFirst
    cases atFirst
    exact Array.Perm.refl _
  · rw [Array.getElem?_push, if_neg (by omega)] at atFirst
    apply Array.Perm.symm
    exact (((rise_perm before _ _).trans (sink_perm before _ _)).push first).trans
      (set_first_perm atFirst)

theorem mem_of_pop? {heap rest : Array β} {first : β}
    (popped : pop? before heap = some (first, rest)) (entry : β) :
    entry ∈ heap ↔ entry ∈ rest ∨ entry = first :=
  (pop?_perm popped).mem_iff.trans Array.mem_push

theorem size_of_pop? {heap rest : Array β} {first : β}
    (popped : pop? before heap = some (first, rest)) : heap.size = rest.size + 1 :=
  (pop?_perm popped).size_eq.trans (Array.size_push first)

/-- No entry comes before the one that is taken out. -/
theorem pop?_first (order : Precedence before fit) {heap rest : Array β} {first : β}
    (fits : Fit fit heap) (inOrder : InOrder before heap)
    (popped : pop? before heap = some (first, rest)) :
    ∀ entry ∈ heap, before entry first = false :=
  first_of_inOrder order fits inOrder (pop?_cases popped).1

theorem pop?_inOrder (order : Precedence before fit) {heap rest : Array β} {first : β}
    (fits : Fit fit heap) (inOrder : InOrder before heap)
    (popped : pop? before heap = some (first, rest)) : InOrder before rest := by
  rcases pop?_cases popped with ⟨atFirst, body, last, rfl, ⟨rfl, rfl⟩ | ⟨inhabited, rfl⟩⟩
  · exact inOrder_empty
  · have lastFits : fit last := fits last (Array.mem_push_self)
    have bodyFits : Fit fit (body.setIfInBounds 0 last) := by
      intro entry member
      rcases Array.mem_or_eq_of_mem_setIfInBounds member with old | new
      · exact fits entry (Array.mem_push_of_mem last old)
      · exact new ▸ lastFits
    apply rise_inOrder order _ _ (bodyFits.of_perm (sink_perm before _ _))
    apply sink_rising order _ _ bodyFits
    refine ⟨?_, fun positive => absurd positive (Nat.lt_irrefl 0)⟩
    intro other positive different apart entry above atOther atUpper
    have bound := (Array.getElem?_eq_some_iff.mp atOther).1
    rw [Array.size_setIfInBounds] at bound
    rw [Array.getElem?_setIfInBounds_ne (Ne.symm different)] at atOther
    rw [Array.getElem?_setIfInBounds_ne (Ne.symm apart)] at atUpper
    apply inOrder other positive entry above
    · rw [Array.getElem?_push, if_neg (by omega)]
      exact atOther
    · rw [Array.getElem?_push, if_neg (by omega)]
      exact atUpper

/-! ## Images of heaps -/

section Image

variable {γ : Type} {after : γ → γ → Bool} {image : β → γ}

theorem map_swap (image : β → γ) (heap : Array β) (first second : Nat) :
    (heap.map image).swapIfInBounds first second =
      (heap.swapIfInBounds first second).map image := by
  simp only [Array.swapIfInBounds_def, Array.size_map]
  split
  · split
    · apply Array.ext_getElem?
      intro place
      simp only [Array.getElem?_map, Array.getElem?_swap, Array.getElem_map]
      split
      · rfl
      · split <;> rfl
    · rfl
  · rfl

variable (respects : ∀ first second, fit first → fit second →
  after (image first) (image second) = before first second)

include respects

theorem firstChild_map {heap : Array β} (fits : Fit fit heap) (place : Nat) :
    firstChild after (heap.map image) place = firstChild before heap place := by
  unfold firstChild
  simp only [Array.getElem?_map]
  cases atLeft : heap[2 * place + 1]? with
  | none => rfl
  | some left =>
    cases atRight : heap[2 * place + 1 + 1]? with
    | none => rfl
    | some right =>
      simp only [Option.map_some]
      rw [respects left right (fits left (mem_of_lookup atLeft))
        (fits right (mem_of_lookup atRight))]

theorem rise_map (heap : Array β) (fits : Fit fit heap) (place : Nat) :
    rise after (heap.map image) place = (rise before heap place).map image := by
  induction place using Nat.strongRecOn generalizing heap with
  | ind place hypothesis =>
    rw [rise, rise]
    split
    · rfl
    · rename_i below
      simp only [Array.getElem?_map]
      cases atPlace : heap[place]? with
      | none => rfl
      | some entry =>
        cases atParent : heap[(place - 1) / 2]? with
        | none => rfl
        | some above =>
          simp only [Option.map_some]
          rw [respects entry above (fits entry (mem_of_lookup atPlace))
            (fits above (mem_of_lookup atParent))]
          split
          · rw [map_swap]
            exact hypothesis _ (by omega) _ (fits.of_perm (swap_perm heap _ _))
          · rfl

theorem sink_map (heap : Array β) (fits : Fit fit heap) (place : Nat) :
    sink after (heap.map image) place =
      ((sink before heap place).1.map image, (sink before heap place).2) := by
  fun_induction sink before heap place with
  | case1 heap place bound child hypothesis =>
    rw [sink, Array.size_map, if_pos bound, firstChild_map respects fits]
    dsimp only
    rw [map_swap]
    exact hypothesis (fits.of_perm (swap_perm heap _ _))
  | case2 heap place bound =>
    rw [sink, Array.size_map, if_neg bound]

theorem push_map {heap : Array β} (fits : Fit fit heap) {entry : β} (fitting : fit entry) :
    push after (heap.map image) (image entry) = (push before heap entry).map image := by
  have allFit : Fit fit (heap.push entry) := by
    intro other member
    rcases Array.mem_push.mp member with old | rfl
    · exact fits other old
    · exact fitting
  rw [push, push, ← Array.map_push, Array.size_map]
  exact rise_map respects _ allFit _

/-- What is taken out of the image of a heap is the image of what is taken out of the heap. -/
theorem pop?_map {heap : Array β} (fits : Fit fit heap) :
    pop? after (heap.map image) =
      (pop? before heap).map fun taken => (image taken.1, taken.2.map image) := by
  unfold pop?
  rw [Array.getElem?_map, Array.back?_map]
  cases atFirst : heap[0]? with
  | none => rfl
  | some first =>
    cases atLast : heap.back? with
    | none => rfl
    | some last =>
      have restFits : Fit fit (heap.pop.setIfInBounds 0 last) := by
        rcases Array.back?_eq_some_iff.mp atLast with ⟨body, rfl⟩
        rw [Array.pop_push]
        intro entry member
        rcases Array.mem_or_eq_of_mem_setIfInBounds member with old | rfl
        · exact fits entry (Array.mem_push_of_mem last old)
        · exact fits entry Array.mem_push_self
      have sunkFits := restFits.of_perm (sink_perm before _ 0)
      have sameEmpty : (heap.pop.map image).isEmpty = heap.pop.isEmpty := by
        simp only [Array.isEmpty, Array.size_map]
      simp only [Option.map_some, ← Array.map_pop, sameEmpty, ← Array.map_setIfInBounds]
      rw [sink_map respects _ restFits, rise_map respects _ sunkFits]
      split <;> rfl

end Image

end Egress.Heap
