import Mathlib.Data.List.Chain
import Mathlib.Data.List.InsertIdx
import Mathlib.Data.List.Perm.Basic
import Egress.Proofs.Precedence
import Egress.Ranking

/-!
# Rankings are in order

A ranking holds the items that it was made from, and none of them comes before one in front of it.
The run at the beginning is in order because each of its items was compared with the one before it;
an item inserted later stands behind all items that it does not come before and ahead of all others,
since halving a ranking that is in order finds that place.
-/

namespace Egress.Ranking

variable {β : Type} {before : β → β → Bool} {fit : β → Prop}

/-- No item comes before one in front of it. -/
def Ranked (before : β → β → Bool) (items : List β) : Prop :=
  items.Pairwise fun first second => before second first = false

/-- It is enough to compare neighbours. -/
theorem ranked_of_isChain (order : Precedence before fit) {items : List β}
    (fits : ∀ item ∈ items, fit item)
    (chain : items.IsChain fun first second => before second first = false) :
    Ranked before items := by
  induction items with
  | nil => exact .nil
  | cons first others hypothesis =>
    have later := hypothesis (fun item member => fits item (List.mem_cons_of_mem _ member))
      chain.tail
    refine List.pairwise_cons.mpr ⟨?_, later⟩
    cases others with
    | nil => exact fun item member => absurd member List.not_mem_nil
    | cons second others =>
      have next := (List.isChain_cons_cons.mp chain).1
      intro item member
      rcases List.mem_cons.mp member with rfl | further
      · exact next
      · exact order.trans (fits first List.mem_cons_self)
          (fits second (List.mem_cons_of_mem _ List.mem_cons_self))
          (fits item (List.mem_cons_of_mem _ member)) next
          ((List.pairwise_cons.mp later).1 item further)

/-! ## The run at the beginning -/

/-- A run goes on from each of its items to the next. -/
theorem isChain_take_runLength (goesOn : β → β → Bool) (previous : β) (items : List β) :
    (previous :: items.take (runLength goesOn previous items)).IsChain
      fun first second => goesOn first second = true := by
  induction items generalizing previous with
  | nil => exact List.isChain_singleton previous
  | cons item rest hypothesis =>
    rw [runLength]
    split
    · rename_i onward
      rw [Nat.add_comm, List.take_succ_cons]
      exact List.isChain_cons_cons.mpr ⟨onward, hypothesis item⟩
    · exact List.isChain_singleton previous

theorem firstRun_perm (before : β → β → Bool) (items : List β) :
    ((firstRun before items).1 ++ (firstRun before items).2).Perm items := by
  unfold firstRun
  split
  · rename_i first second rest
    dsimp only
    split
    · exact ((List.reverse_perm _).append_right _).trans
        (List.Perm.of_eq (List.take_append_drop _ _))
    · exact List.Perm.of_eq (List.take_append_drop _ _)
  · rw [List.append_nil]

theorem firstRun_ranked (order : Precedence before fit) {items : List β}
    (fits : ∀ item ∈ items, fit item) : Ranked before (firstRun before items).1 := by
  have fitsRun : ∀ item ∈ (firstRun before items).1, fit item := fun item member =>
    fits item ((firstRun_perm before items).mem_iff.mp (List.mem_append_left _ member))
  apply ranked_of_isChain order fitsRun
  unfold firstRun at fitsRun ⊢
  split
  · rename_i first second rest
    have fitFirst := fits first List.mem_cons_self
    dsimp only at fitsRun ⊢
    split
    · rename_i falling
      rw [if_pos falling] at fitsRun
      have chain : ((first :: second :: rest).take (2 + runLength
          (fun previous item => before item previous) second rest)).IsChain
          fun first second => before second first = true := by
        rw [Nat.add_comm, List.take_succ_cons, List.take_succ_cons]
        exact List.isChain_cons_cons.mpr ⟨falling, isChain_take_runLength _ second rest⟩
      rw [List.isChain_reverse]
      apply chain.imp_of_mem_imp
      intro earlier later isEarlier isLater comes
      exact order.asymm (fitsRun later (List.mem_reverse.mpr isLater))
        (fitsRun earlier (List.mem_reverse.mpr isEarlier)) comes
    · rename_i rising
      rw [Nat.add_comm, List.take_succ_cons, List.take_succ_cons]
      refine List.isChain_cons_cons.mpr ⟨by simpa using rising, ?_⟩
      apply (isChain_take_runLength _ second rest).imp
      intro earlier later behind
      simpa using behind
  · rename_i short
    match items, short with
    | [], _ => exact .nil
    | [item], _ => exact List.isChain_singleton item
    | first :: second :: rest, short => exact absurd rfl (short first second rest)

/-! ## Insertion -/

/-- The place that is found lies within the ranking. -/
theorem placeIn_le (before : β → β → Bool) (ranked : List β) (item : β) (low high : Nat)
    (ordered : low ≤ high) (bound : high ≤ ranked.length) :
    placeIn before ranked item low high ≤ ranked.length := by
  induction gap : high - low using Nat.strong_induction_on generalizing low high with
  | _ size hypothesis =>
    rw [placeIn]
    split
    · dsimp only
      split
      · split
        · exact hypothesis _ (by omega) low _ (by omega) (by omega) rfl
        · exact hypothesis _ (by omega) _ high (by omega) bound rfl
      · omega
    · omega

theorem insert_perm (before : β → β → Bool) (ranked : List β) (item : β) :
    (insert before ranked item).Perm (item :: ranked) :=
  List.perm_insertIdx item ranked
    (placeIn_le before ranked item 0 ranked.length (Nat.zero_le _) (Nat.le_refl _))

/-- All items in front of a place stay in front of an item, and all others go behind it. -/
structure Divides (before : β → β → Bool) (ranked : List β) (item : β) (low high : Nat) : Prop where
  front : ∀ index other, index < low → ranked[index]? = some other → before item other = false
  behind : ∀ index other, high ≤ index → ranked[index]? = some other → before item other = true

/-- In a ranking, what an item comes before is followed by nothing else, and what it does not come
before is preceded by nothing else. -/
theorem Ranked.before_mono (order : Precedence before fit) {ranked : List β}
    (inOrder : Ranked before ranked) (fits : ∀ other ∈ ranked, fit other) {item : β}
    (fitItem : fit item) {low high : Nat} {first second : β} (atLow : ranked[low]? = some first)
    (atHigh : ranked[high]? = some second) (ordered : low ≤ high)
    (notBefore : before item second = false) : before item first = false := by
  have fitFirst := fits first (List.mem_of_getElem? atLow)
  have fitSecond := fits second (List.mem_of_getElem? atHigh)
  rcases Nat.eq_or_lt_of_le ordered with rfl | less
  · rw [atLow] at atHigh
    cases atHigh
    exact notBefore
  · rcases List.getElem?_eq_some_iff.mp atLow with ⟨lowBound, rfl⟩
    rcases List.getElem?_eq_some_iff.mp atHigh with ⟨highBound, rfl⟩
    exact order.trans fitFirst fitSecond fitItem
      (List.pairwise_iff_getElem.mp inOrder low high lowBound highBound less) notBefore

/-- Halving leads to a place that divides the ranking. -/
theorem placeIn_divides (order : Precedence before fit) {ranked : List β}
    (inOrder : Ranked before ranked) (fits : ∀ other ∈ ranked, fit other) {item : β}
    (fitItem : fit item) (low high : Nat) (ordered : low ≤ high) (bound : high ≤ ranked.length)
    (divides : Divides before ranked item low high) :
    Divides before ranked item (placeIn before ranked item low high)
      (placeIn before ranked item low high) := by
  induction gap : high - low using Nat.strong_induction_on generalizing low high with
  | _ size hypothesis =>
    rw [placeIn]
    split
    · rename_i apart
      have middle : low + (high - low) / 2 < ranked.length := by omega
      have found := List.getElem?_eq_getElem middle
      simp only [found]
      split
      · rename_i ahead
        refine hypothesis _ ?_ low _ (by omega) (by omega) ⟨divides.front, ?_⟩ rfl
        · omega
        · intro index other inside atIndex
          by_contra notAhead
          rw [Bool.not_eq_true] at notAhead
          rw [inOrder.before_mono order fits fitItem found atIndex inside notAhead] at ahead
          exact Bool.noConfusion ahead
      · rename_i notAhead
        rw [Bool.not_eq_true] at notAhead
        refine hypothesis _ ?_ _ high (by omega) bound ⟨?_, divides.behind⟩ rfl
        · omega
        · intro index other inside atIndex
          exact inOrder.before_mono order fits fitItem atIndex found (by omega) notAhead
    · have same : low = high := by omega
      subst same
      exact divides

/-- Inserting at a place that divides a ranking keeps it in order. -/
theorem Ranked.insertIdx (order : Precedence before fit) {ranked : List β}
    (inOrder : Ranked before ranked) (fits : ∀ other ∈ ranked, fit other) {item : β}
    (fitItem : fit item) (place : Nat) (bound : place ≤ ranked.length)
    (divides : Divides before ranked item place place) :
    Ranked before (ranked.insertIdx place item) := by
  induction place generalizing ranked with
  | zero =>
    refine List.pairwise_cons.mpr ⟨?_, inOrder⟩
    intro other member
    rcases List.mem_iff_getElem?.mp member with ⟨index, atIndex⟩
    exact order.asymm fitItem (fits other member)
      (divides.behind index other (Nat.zero_le _) atIndex)
  | succ place hypothesis =>
    cases ranked with
    | nil => exact absurd bound (Nat.not_succ_le_zero _)
    | cons first others =>
      have parts := List.pairwise_cons.mp inOrder
      have inside : place ≤ others.length := Nat.le_of_succ_le_succ bound
      rw [List.insertIdx_succ_cons]
      refine List.pairwise_cons.mpr ⟨?_, ?_⟩
      · intro other member
        rcases (List.mem_insertIdx inside).mp member with rfl | old
        · exact divides.front 0 first (Nat.zero_lt_succ _) rfl
        · exact parts.1 other old
      · refine hypothesis parts.2 (fun other member => fits other (List.mem_cons_of_mem _ member))
          inside ⟨?_, ?_⟩
        · intro index other less atIndex
          exact divides.front (index + 1) other (Nat.succ_lt_succ less) atIndex
        · intro index other more atIndex
          exact divides.behind (index + 1) other (Nat.succ_le_succ more) atIndex

theorem divides_all (ranked : List β) (item : β) :
    Divides before ranked item 0 ranked.length where
  front := fun _ _ less => absurd less (Nat.not_lt_zero _)
  behind := by
    intro index other more atIndex
    rw [List.getElem?_eq_none more] at atIndex
    cases atIndex

theorem insert_ranked (order : Precedence before fit) {ranked : List β}
    (inOrder : Ranked before ranked) (fits : ∀ other ∈ ranked, fit other) {item : β}
    (fitItem : fit item) : Ranked before (insert before ranked item) :=
  inOrder.insertIdx order fits fitItem _
    (placeIn_le before ranked item 0 ranked.length (Nat.zero_le _) (Nat.le_refl _))
    (placeIn_divides order inOrder fits fitItem 0 ranked.length (Nat.zero_le _) (Nat.le_refl _)
      (divides_all ranked item))

/-! ## The whole ranking -/

theorem foldl_insert_perm (before : β → β → Bool) (items ranked : List β) :
    (items.foldl (insert before) ranked).Perm (ranked ++ items) := by
  induction items generalizing ranked with
  | nil => exact List.Perm.of_eq (List.append_nil ranked).symm
  | cons item rest hypothesis =>
    refine (hypothesis (insert before ranked item)).trans ?_
    exact ((insert_perm before ranked item).append_right rest).trans List.perm_middle.symm

theorem foldl_insert_ranked (order : Precedence before fit) (items : List β) {ranked : List β}
    (inOrder : Ranked before ranked) (fitsRanked : ∀ other ∈ ranked, fit other)
    (fits : ∀ item ∈ items, fit item) : Ranked before (items.foldl (insert before) ranked) := by
  induction items generalizing ranked with
  | nil => exact inOrder
  | cons item rest hypothesis =>
    have fitItem := fits item List.mem_cons_self
    refine hypothesis (insert_ranked order inOrder fitsRanked fitItem) ?_
      fun other member => fits other (List.mem_cons_of_mem _ member)
    intro other member
    rcases List.mem_cons.mp ((insert_perm before ranked item).mem_iff.mp member) with rfl | old
    · exact fitItem
    · exact fitsRanked other old

/-- A ranking holds its items, whether or not they can be compared. -/
theorem ofList_perm (before : β → β → Bool) (items : List β) :
    (ofList before items).Perm items :=
  (foldl_insert_perm before _ _).trans (firstRun_perm before items)

/-- A ranking holds its items in order. -/
theorem ofList_spec (order : Precedence before fit) {items : List β}
    (fits : ∀ item ∈ items, fit item) :
    Ranked before (ofList before items) ∧ (ofList before items).Perm items := by
  have fitsParts : ∀ item ∈ (firstRun before items).1 ++ (firstRun before items).2, fit item :=
    fun item member => fits item ((firstRun_perm before items).mem_iff.mp member)
  refine ⟨?_, ofList_perm before items⟩
  exact foldl_insert_ranked order (firstRun before items).2 (firstRun_ranked order fits)
    (fun item member => fitsParts item (List.mem_append_left _ member))
    (fun item member => fitsParts item (List.mem_append_right _ member))

end Egress.Ranking
