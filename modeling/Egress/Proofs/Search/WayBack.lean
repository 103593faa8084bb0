import Egress.Proofs.Search.Outcome
import Egress.Route

/-!
# The way back

Whoever follows the labels of a search back from a region gets to the start, without passing a
region twice, so going back needs no more steps than there are labels.  Where the costs are sums of
weights, the weights along the way add up to the cost in the label of the region.
-/

namespace Egress

variable {α : Type} [Scalar α]

/-- Following the labels back from the first region of a list passes the regions of the list in
order and ends at its last region, which has no predecessor. -/
inductive Labels.LeadBack (labels : Labels α) : List Int → Prop
  | origin {region : Int} {label : Label α} : labels.find? region = some label →
      label.previous = none → LeadBack labels [region]
  | further {region previous : Int} {back : List Int} {label : Label α} :
      labels.find? region = some label → label.previous = some previous →
      LeadBack labels (previous :: back) → LeadBack labels (region :: previous :: back)

namespace Search

variable {next : Int → List (Int × α)} {weights : α → Prop} {domain : Int → Prop} {start : Int}
  {state : State α}

/-- A way back from a region that passes only the given regions. -/
def WayBackWithin (labels : Labels α) (allowed : List Int) (region : Int) : Prop :=
  ∀ label, labels.find? region = some label → ∃ back, labels.LeadBack (region :: back) ∧
    (region :: back).Nodup ∧ ∀ passed ∈ back, passed ∈ allowed

theorem Rooted.wayBack_start (rooted : Rooted next domain start state) (allowed : List Int) :
    WayBackWithin state.labels allowed start := by
  intro label found
  cases found.symm.trans rooted.origin
  exact ⟨[], .origin rooted.origin rfl, List.nodup_singleton start,
    fun passed member => absurd member List.not_mem_nil⟩

/-- A way back is continued by one step, from a region that it does not pass. -/
theorem Rooted.wayBack_step (rooted : Rooted next domain start state) {allowed : List Int}
    {region previous : Int} {label : Label α} (found : state.labels.find? region = some label)
    (isPrevious : label.previous = some previous) (settled : previous ∈ state.settled)
    (inside : previous ∈ allowed) (fresh : region ∉ allowed)
    (earlier : WayBackWithin state.labels allowed previous) :
    WayBackWithin state.labels allowed region := by
  intro same isSame
  cases isSame.symm.trans found
  rcases rooted.settled_labelled previous settled with ⟨before, isBefore⟩
  rcases earlier before isBefore with ⟨back, leads, distinct, within⟩
  have passed : ∀ step ∈ previous :: back, step ∈ allowed := by
    intro step member
    rcases List.mem_cons.mp member with rfl | further
    · exact inside
    · exact within step further
  exact ⟨previous :: back, .further found isPrevious leads,
    List.nodup_cons.mpr ⟨fun member => fresh (passed region member), distinct⟩, passed⟩

/-- The labels of settled regions lead back through regions settled before. -/
theorem Rooted.wayBack_settled (rooted : Rooted next domain start state) (settled : List Int)
    (inTurn : SettledInTurn state.labels settled) (distinct : settled.Nodup) :
    ∀ region ∈ settled, WayBackWithin state.labels settled region := by
  induction settled with
  | nil => exact fun region member => absurd member List.not_mem_nil
  | cons latest earlier hypothesis =>
    have parts := List.nodup_cons.mp distinct
    intro region member label found
    have widen : WayBackWithin state.labels earlier region →
        ∃ back, state.labels.LeadBack (region :: back) ∧ (region :: back).Nodup ∧
          ∀ passed ∈ back, passed ∈ latest :: earlier := by
      intro narrow
      rcases narrow label found with ⟨back, leads, once, within⟩
      exact ⟨back, leads, once, fun passed isPassed =>
        List.mem_cons_of_mem latest (within passed isPassed)⟩
    apply widen
    rcases List.mem_cons.mp member with rfl | before
    · by_cases isStart : region = start
      · exact isStart ▸ rooted.wayBack_start earlier
      · rcases rooted.led region label found isStart with ⟨previous, isPrevious, settled, -⟩
        have inside := inTurn.1 label previous found isPrevious
        exact rooted.wayBack_step found isPrevious settled inside parts.1
          (hypothesis inTurn.2 parts.2 previous inside)
    · exact hypothesis inTurn.2 parts.2 region before

/-- The labels lead back from every region that has one. -/
theorem Rooted.wayBack (rooted : Rooted next domain start state) (region : Int) :
    WayBackWithin state.labels state.settled region := by
  have settledWays := rooted.wayBack_settled _ rooted.inTurn rooted.distinct
  by_cases settled : region ∈ state.settled
  · exact settledWays region settled
  · intro label found
    by_cases isStart : region = start
    · subst isStart
      exact rooted.wayBack_start state.settled label found
    · rcases rooted.led region label found isStart with ⟨previous, isPrevious, inside, -⟩
      exact rooted.wayBack_step found isPrevious inside inside settled
        (settledWays previous inside) label found

/-- A way back is a trail whose total is the cost in the label of its region. -/
theorem Summed.trail_of_leadBack (summed : Summed next weights start state.labels)
    (rooted : Rooted next domain start state) {regions : List Int}
    (leads : state.labels.LeadBack regions) :
    ∀ region back label, regions = region :: back → state.labels.find? region = some label →
      Trail next start regions label.cost := by
  induction leads with
  | @origin region label found isOrigin =>
    intro same back other isSame isLabel
    cases isSame
    cases isLabel.symm.trans found
    by_cases isStart : region = start
    · subst isStart
      cases found.symm.trans rooted.origin
      exact .start
    · rcases rooted.led region label found isStart with ⟨previous, isPrevious, -⟩
      cases isOrigin.symm.trans isPrevious
  | @further region previous back label found isPrevious leads hypothesis =>
    intro same others other isSame isLabel
    cases isSame
    cases isLabel.symm.trans found
    have different : region ≠ start := by
      rintro rfl
      cases found.symm.trans rooted.origin
      cases isPrevious
    rcases summed.added region label found different with
      ⟨before, earlier, weight, isBefore, isEarlier, arc, sum⟩
    cases isPrevious.symm.trans isBefore
    rw [sum]
    exact (hypothesis previous back earlier rfl isEarlier).step arc

end Search

namespace Labels

variable {labels : Labels α}

omit [Scalar α] in
/-- Backtracking lists the regions of the way back, the start first. -/
theorem LeadBack.backtrack_eq {regions : List Int} (leads : labels.LeadBack regions) :
    ∀ steps region back passed, regions = region :: back → back.length ≤ steps →
      labels.backtrack steps region passed = regions.reverse ++ passed := by
  induction leads with
  | @origin region label found isOrigin =>
    intro steps last back passed same enough
    cases same
    cases steps with
    | zero => rfl
    | succ steps =>
      simp only [backtrack, found, Option.bind_some, isOrigin, List.reverse_singleton,
        List.singleton_append]
  | @further region previous back label found isPrevious leads hypothesis =>
    intro steps last rest passed same enough
    cases same
    cases steps with
    | zero => exact absurd enough (by simp)
    | succ steps =>
      simp only [backtrack, found, Option.bind_some, isPrevious]
      rw [hypothesis steps previous back (region :: passed) rfl (Nat.le_of_succ_le_succ enough)]
      simp only [List.reverse_cons, List.append_assoc, List.cons_append,
        List.nil_append]

omit [Scalar α] in
/-- A way back depends on the labels of its regions only. -/
theorem LeadBack.congr {changed : Labels α} {regions : List Int} (leads : labels.LeadBack regions)
    (same : ∀ region ∈ regions, changed.find? region = labels.find? region) :
    changed.LeadBack regions := by
  induction leads with
  | origin found isOrigin =>
    exact .origin ((same _ List.mem_cons_self).trans found) isOrigin
  | further found isPrevious leads hypothesis =>
    exact .further ((same _ List.mem_cons_self).trans found) isPrevious
      (hypothesis fun region member => same region (List.mem_cons_of_mem _ member))

omit [Scalar α] in
theorem LeadBack.labelled {regions : List Int} (leads : labels.LeadBack regions) :
    ∀ region ∈ regions, region ∈ labels.keys := by
  have isKey : ∀ {region : Int} {label : Label α}, labels.find? region = some label →
      region ∈ labels.keys := by
    intro region label found
    by_contra absent
    rw [(labels.find?_eq_none_iff region).mpr absent] at found
    cases found
  induction leads with
  | origin found isOrigin =>
    intro region member
    exact List.mem_singleton.mp member ▸ isKey found
  | further found isPrevious leads hypothesis =>
    intro region member
    rcases List.mem_cons.mp member with rfl | earlier
    · exact isKey found
    · exact hypothesis region earlier

omit [Scalar α] in
/-- A way back from a region that was reached from another one has at least two regions. -/
theorem LeadBack.exists_two {region previous : Int} {back : List Int} {label : Label α}
    (leads : labels.LeadBack (region :: back)) (found : labels.find? region = some label)
    (isPrevious : label.previous = some previous) :
    ∃ first second rest, (region :: back).reverse = first :: second :: rest := by
  cases leads with
  | origin isFound isOrigin =>
    cases isFound.symm.trans found
    cases isOrigin.symm.trans isPrevious
  | @further _ before rest =>
    rcases whole : (region :: before :: rest).reverse with _ | ⟨first, _ | ⟨second, others⟩⟩
    · simp at whole
    · simpa using congrArg List.length whole
    · exact ⟨first, second, others, rfl⟩

omit [Scalar α] in
/-- There are enough labels to go back all the way. -/
theorem LeadBack.backtrack_size {region : Int} {back : List Int}
    (leads : labels.LeadBack (region :: back)) (distinct : (region :: back).Nodup) :
    labels.backtrack labels.size region [] = (region :: back).reverse := by
  have few : (region :: back).length ≤ labels.keys.length :=
    (distinct.subperm leads.labelled).length_le
  have size : labels.keys.length = labels.size := List.length_map _
  rw [leads.backtrack_eq labels.size region back [] rfl (by rw [List.length_cons] at few; omega),
    List.append_nil]

end Labels

end Egress
