import Egress.Proofs.Journey
import Egress.Proofs.Predecessors
import Egress.Proofs.Stopping

/-!
# Ways that cost the same

A route is read off the labels of a search, so of several ways of one cost it follows the one along
which the labels were given.  Which one this is shows where the ways meet for the last time: the
region from which the route comes was settled no later than the other one, so it is no farther from
the start.

Where the two ways have the same weights, one by one, between the region where they part and one
where they meet, this goes back to the region where they part, and the route leaves it by the
connection that was declared first.  Where the weights differ it need not: an early connection that
is dear leads to a region that is settled late.
-/

namespace Egress

/-- Of two lists neither of which continues the other there is a first place where they differ. -/
theorem exists_parting {β : Type} {one two : List β} (notPrefix : ∀ more, two ≠ one ++ more)
    (alsoNot : ∀ more, one ≠ two ++ more) : ∃ common first second rest others,
      one = common ++ first :: rest ∧ two = common ++ second :: others ∧ first ≠ second := by
  induction one generalizing two with
  | nil => exact absurd rfl (notPrefix two)
  | cons first rest hypothesis =>
    cases two with
    | nil => exact absurd rfl (alsoNot (first :: rest))
    | cons second others =>
      by_cases same : first = second
      · subst same
        rcases hypothesis (fun more => fun equal => notPrefix more (congrArg (first :: ·) equal))
          (fun more => fun equal => alsoNot more (congrArg (first :: ·) equal)) with
          ⟨common, left, right, rest, others, rfl, rfl, different⟩
        exact ⟨first :: common, left, right, rest, others, rfl, rfl, different⟩
      · exact ⟨[], first, second, rest, others, rfl, rfl, same⟩

namespace Awareness

open Search (rank Tight LedBy Traced)

/-- Ways from a start along connections that are related to the regions they lead to. -/
inductive Along (step : Connection Rat → Int → Prop) (start : Int) :
    List (Connection Rat) → Int → Prop
  | stay : Along step start [] start
  | follow {walk : List (Connection Rat)} {connection : Connection Rat} {target : Int} :
      Along step start walk connection.source → step connection target →
      Along step start (walk ++ [connection]) target

namespace Along

variable {step other : Connection Rat → Int → Prop} {start region : Int}
  {walk : List (Connection Rat)}

theorem start_of_nil (along : Along step start [] region) : region = start := by
  generalize empty : ([] : List (Connection Rat)) = walk at along
  cases along with
  | stay => rfl
  | follow => exact absurd empty.symm (List.append_ne_nil_of_right_ne_nil _ (List.cons_ne_nil _ _))

/-- The last connection leads to the end of the way. -/
theorem unsnoc {connection : Connection Rat}
    (along : Along step start (walk ++ [connection]) region) :
    Along step start walk connection.source ∧ step connection region := by
  generalize whole : walk ++ [connection] = all at along
  cases along with
  | stay => exact absurd whole (List.append_ne_nil_of_right_ne_nil _ (List.cons_ne_nil _ _))
  | follow along isStep =>
    rcases List.append_inj' whole rfl with ⟨rfl, same⟩
    cases same
    exact ⟨along, isStep⟩

/-- Two ways with the same connections at the end meet where these begin. -/
theorem cancel {front back tail : List (Connection Rat)}
    (along : Along step start (front ++ tail) region)
    (also : Along other start (back ++ tail) region) :
    ∃ middle, Along step start front middle ∧ Along other start back middle := by
  induction tail using List.reverseRecOn generalizing region with
  | nil =>
    rw [List.append_nil] at along also
    exact ⟨region, along, also⟩
  | append_singleton tail last hypothesis =>
    rw [← List.append_assoc] at along also
    exact hypothesis along.unsnoc.1 also.unsnoc.1

theorem of_append {front tail : List (Connection Rat)}
    (along : Along step start (front ++ tail) region) :
    ∃ middle, Along step start front middle := by
  rcases along.cancel along with ⟨middle, before, -⟩
  exact ⟨middle, before⟩

theorem mono (implied : ∀ connection target, step connection target → other connection target)
    (along : Along step start walk region) : Along other start walk region := by
  induction along with
  | stay => exact .stay
  | follow _ isStep hypothesis => exact hypothesis.follow (implied _ _ isStep)

end Along

variable {awareness : Awareness Rat} {labels : Labels Rat} {start region : Int}
  {walk : List (Connection Rat)}

/-- The label of a region is from the region that the connection leaves. -/
def Leads (awareness : Awareness Rat) (labels : Labels Rat) (connection : Connection Rat)
    (region : Int) : Prop :=
  awareness.Attains labels connection region ∧
    ∃ label, labels.find? region = some label ∧ label.previous = some ↑connection.source

/-- The sections lead to one region, through connections of the same weights, one by one. -/
def Mirrors (awareness : Awareness Rat) (near far : List (Connection Rat)) : Prop :=
  near.map awareness.weightOf = far.map awareness.weightOf ∧
    (near.getLast?.bind fun connection => connection.destination) =
      far.getLast?.bind fun connection => connection.destination

theorem Attains.weightOf_eq {connection : Connection Rat}
    (attains : awareness.Attains labels connection region) {here there : Label Rat}
    (isHere : labels.find? connection.source = some here)
    (isThere : labels.find? region = some there) :
    there.cost = here.cost + awareness.weightOf connection := by
  rcases attains.sum with ⟨before, after, weight, isBefore, isAfter, isWeight, sum⟩
  cases isHere.symm.trans isBefore
  cases isThere.symm.trans isAfter
  rw [← sum, weightOf, isWeight]
  rfl

/-- A way along which every cost is attained ends where its last connection leads. -/
theorem Along.getLast?_eq {part : List (Connection Rat)}
    (along : Along (awareness.Attains labels) start (walk ++ part) region)
    (inhabited : part ≠ []) :
    (part.getLast?.bind fun connection => connection.destination) = some region := by
  rcases List.eq_nil_or_concat' part with rfl | ⟨init, last, rfl⟩
  · exact absurd rfl inhabited
  · rw [← List.append_assoc] at along
    rw [List.getLast?_concat, Option.bind_some]
    exact along.unsnoc.2.target

theorem Along.end_unique {other : Int}
    (along : Along (awareness.Attains labels) start walk region)
    (also : Along (awareness.Attains labels) start walk other) : region = other := by
  cases along with
  | stay => exact also.start_of_nil.symm
  | follow _ attains => exact Option.some.inj (attains.target.symm.trans also.unsnoc.2.target)

theorem Along.attains (along : Along (awareness.Leads labels) start walk region) :
    Along (awareness.Attains labels) start walk region :=
  along.mono fun _ _ leads => leads.1

/-- The connections of a way along which every cost is attained add up to the cost of its end. -/
theorem Along.cost_eq (along : Along (awareness.Attains labels) start walk region)
    (origin : labels.find? start = some ⟨Scalar.zero, none⟩) :
    ∃ label, labels.find? region = some label ∧
      label.cost = Network.cost awareness.weightOf walk := by
  induction along with
  | stay => exact ⟨_, origin, rfl⟩
  | @follow walk connection target along attains hypothesis =>
    rcases hypothesis with ⟨here, isHere, sum⟩
    rcases attains.sum with ⟨-, there, -, -, isThere, -, -⟩
    refine ⟨there, isThere, ?_⟩
    rw [attains.weightOf_eq isHere isThere, sum, Network.cost_concat]

/-! ## Ways through what a search has settled -/

variable {start : Nat} {final : Search.State Rat}

section Least

variable (weighed : awareness.Weighed) (exhausted : awareness.Exhausted start final)

include weighed exhausted

theorem Exhausted.exists_lower
    (isWalk : awareness.network.Walk awareness.Knows start walk region) :
    ∃ label, final.labels.find? region = some label ∧
      label.cost ≤ Network.cost awareness.weightOf walk := by
  rcases weighed.label_of_walk exhausted.outcome (Or.inl rfl) isWalk with
    ⟨label, total, found, summed, lower⟩
  cases summed.symm.trans (weighed.total_eq isWalk.mem_connections)
  exact ⟨label, found, lower⟩

theorem Exhausted.exists_way {label : Label Rat} (found : final.labels.find? region = some label) :
    ∃ way, awareness.network.Walk awareness.Knows start way region ∧
      Network.cost awareness.weightOf way = label.cost := by
  rcases walk_of_label exhausted.outcome found with ⟨way, -, isWay, summed, -⟩
  exact ⟨way, isWay,
    Except.ok.inj ((weighed.total_eq isWay.mem_connections).symm.trans summed)⟩

/-- A walk that costs no more than its end attains the cost of every region that it passes. -/
theorem Exhausted.along_of_cost
    (isWalk : awareness.network.Walk awareness.Knows start walk region)
    {label : Label Rat} (found : final.labels.find? region = some label)
    (cheap : Network.cost awareness.weightOf walk = label.cost) :
    Along (awareness.Attains final.labels) start walk region := by
  induction isWalk generalizing label with
  | stay => exact .stay
  | @follow walk connection target isWalk isKnown member isTarget hypothesis =>
    rcases exhausted.exists_lower weighed isWalk with ⟨here, isHere, upper⟩
    rcases exhausted.exists_way weighed isHere with ⟨way, isWay, reached⟩
    rcases exhausted.exists_lower weighed (isWay.follow isKnown member isTarget) with
      ⟨there, isThere, lower⟩
    cases found.symm.trans isThere
    rw [Network.cost_concat] at cheap lower
    have same : Network.cost awareness.weightOf walk = here.cost := by linarith
    rw [same] at cheap
    exact (hypothesis isHere same).follow ⟨member, isKnown, isTarget, here, label, _, isHere, found,
      weighed.weight_eq member, cheap⟩

end Least

section Order

variable (exhausted : awareness.Exhausted start final)
  (positive : ∀ weight, awareness.Weights weight → 0 < weight)

include exhausted positive

/-- No connection leads back to the start at its cost. -/
theorem Exhausted.ne_start {connection : Connection Rat}
    (attains : awareness.Attains final.labels connection region) : region ≠ start := by
  have laws : LawfulCosts awareness.Weights :=
    .of_rat fun weight isWeight => le_of_lt (positive weight isWeight)
  rintro rfl
  rcases attains.sum with ⟨here, there, weight, isHere, isThere, isWeight, sum⟩
  cases isThere.symm.trans exhausted.outcome.rooted.origin
  have nonneg : (0 : Rat) ≤ here.cost := laws.zero_le (exhausted.outcome.summed.sums _ here isHere)
  have more := positive weight ⟨_, isWeight⟩
  have zero : here.cost + weight = 0 := sum
  linarith

variable {one two : Connection Rat} {first second : Int} {label other : Label Rat}
  (leads : awareness.Leads final.labels one first)
  (attains : awareness.Attains final.labels two second)
  (isFirst : final.labels.find? first = some label)
  (isSecond : final.labels.find? second = some other) (level : label.cost = other.cost)

include leads attains isFirst isSecond level

/-- Of two regions at one cost the first settled has its label from a region settled no later than
any from which the cost of the other is attained. -/
theorem Exhausted.sooner_cases (sooner : rank final.settled first < rank final.settled second) :
    rank final.settled one.source < rank final.settled two.source ∨
      one.source = two.source ∧ ∃ weight added,
        Tight awareness.arcsFrom final.labels one.source first weight ∧
        Tight awareness.arcsFrom final.labels one.source second added ∧
        (awareness.arcsFrom one.source).idxOf (first, weight) <
          (awareness.arcsFrom one.source).idxOf (second, added) := by
  rcases leads with ⟨attainsFirst, found, isFound, isPrevious⟩
  rcases exhausted.outcome.summed.exists_ledBy isFound
    (exhausted.ne_start positive attainsFirst) with ⟨previous, weight, isSame, led⟩
  cases isPrevious.symm.trans isSame
  rcases exhausted.outcome.summed.exists_ledBy isSecond (exhausted.ne_start positive attains) with
    ⟨before, added, -, also⟩
  have notAfter := exhausted.rank_le also attains
  rcases (exhausted.traced.inOrder first (exhausted.settled first label isFirst) second label other
    isFirst isSecond sooner).2 level _ weight before added led also with less | ⟨rfl, less⟩
  · exact Or.inl (Nat.lt_of_lt_of_le less notAfter)
  · rcases Nat.lt_or_eq_of_le notAfter with earlier | same
    · exact Or.inl earlier
    · have isSettled := led.settled exhausted.outcome.rooted
      exact Or.inr ⟨Int.ofNat.inj (Search.eq_of_rank_eq isSettled same), weight, added, led.1,
        also.1, less⟩

/-- Going back from two regions at one cost, the route stays at or ahead of the other way. -/
theorem Exhausted.step_back
    (ahead : first = second ∨ rank final.settled first < rank final.settled second) :
    (one.source : Int) = two.source ∨
      rank final.settled one.source < rank final.settled two.source := by
  rcases ahead with rfl | sooner
  · rcases leads with ⟨attainsFirst, found, isFound, isPrevious⟩
    rcases exhausted.outcome.summed.exists_ledBy isFound
      (exhausted.ne_start positive attainsFirst) with ⟨previous, weight, isSame, led⟩
    cases isPrevious.symm.trans isSame
    rcases Nat.lt_or_eq_of_le (exhausted.rank_le led attains) with earlier | same
    · exact Or.inr earlier
    · exact Or.inl (Search.eq_of_rank_eq (led.settled exhausted.outcome.rooted) same)
  · rcases exhausted.sooner_cases positive leads attains isFirst isSecond level sooner with
      earlier | ⟨same, -⟩
    · exact Or.inr earlier
    · exact Or.inl (congrArg Int.ofNat same)

/-- From one region, the route takes the connection declared first. -/
theorem Exhausted.index_lt (weighed : awareness.Weighed) (simple : awareness.network.Simple)
    (sameSource : (one.source : Int) = two.source) (different : one ≠ two)
    (ahead : first = second ∨ rank final.settled first < rank final.settled second) :
    one.index < two.index := by
  have only : ∀ {connection : Connection Rat} {region : Int},
      awareness.Attains final.labels connection region →
        awareness.FirstAttains final.labels connection.source connection region := by
    intro connection region attains
    refine ⟨attains, rfl, fun other also isSource => le_of_eq (congrArg Connection.index ?_)⟩
    refine simple connection attains.member other also.member (Int.ofNat.inj isSource.symm)
      (attains.target.trans also.target.symm) ?_
    rw [Connection.isDead, attains.target]
    rfl
  have apart : first ≠ second := by
    rintro rfl
    refine different (simple one leads.1.member two attains.member (Int.ofNat.inj sameSource)
      (leads.1.target.trans attains.target.symm) ?_)
    rw [Connection.isDead, leads.1.target]
    rfl
  rcases exhausted.sooner_cases positive leads attains isFirst isSecond level
    (ahead.resolve_left apart) with earlier | ⟨-, weight, added, tight, also, less⟩
  · rw [sameSource] at earlier
    exact absurd earlier (Nat.lt_irrefl _)
  · exact (idxOf_arcsFrom_lt_iff weighed.formed apart tight also (only leads.1)
      (sameSource ▸ only attains)).mp less

end Order

/-! ## Routes -/

theorem Along.reverse_passed (along : Along (awareness.Attains labels) start walk region) :
    ∃ back, (Network.passed start walk).reverse = region :: back := by
  cases along with
  | stay => exact ⟨[], rfl⟩
  | follow _ attains =>
    rw [Network.passed_append attains.target, List.reverse_append]
    exact ⟨_, rfl⟩

/-- If the labels lead back along a way, every label is from the connection before it. -/
theorem Along.leads (along : Along (awareness.Attains labels) start walk region)
    (back : labels.LeadBack (Network.passed start walk).reverse) :
    Along (awareness.Leads labels) start walk region := by
  induction along with
  | stay => exact .stay
  | @follow walk connection target along attains hypothesis =>
    rcases along.reverse_passed with ⟨before, passes⟩
    rw [Network.passed_append attains.target, List.reverse_append, passes] at back
    cases back with
    | further found isPrevious earlier =>
      exact (hypothesis (passes.symm ▸ earlier)).follow ⟨attains, _, found, isPrevious⟩

/-- A route to another region is the way back along the labels of a search to the end. -/
theorem Weighed.route_leadBack (weighed : awareness.Weighed)
    (positive : ∀ weight, awareness.Weights weight → 0 < weight) {start goal : Nat}
    (startInside : start < awareness.network.size) (goalInside : goal < awareness.network.size)
    (different : start ≠ goal) {route : List Int} (found : awareness.route start goal = .ok route)
    {final : Search.State Rat} (searched : awareness.search start none = .ok final) :
    ∃ back, final.labels.LeadBack (goal :: back) ∧ route = (↑goal :: back).reverse := by
  have laws : LawfulCosts awareness.Weights :=
    .of_rat fun weight isWeight => le_of_lt (positive weight isWeight)
  rcases weighed.search_opens startInside with ⟨domain, -, closed, opened, isStart, enough⟩
  rcases Search.run_stops laws weights_of_mem_arcsFrom closed opened goal _ (.begin laws isStart)
    enough with ⟨stopped, full, isStopped, isFull, rooted, continues, relation⟩
  have ofStopped : awareness.search start (some goal) = .ok stopped := isStopped
  cases searched.symm.trans isFull
  rw [route_of_ne startInside goalInside different] at found
  split at found
  · rw [ofStopped, Except.bind] at found
    split at found
    · rename_i contained
      rw [Table.contains, Option.isSome_iff_exists] at contained
      rcases contained with ⟨label, isLabel⟩
      rcases rooted.wayBack goal label isLabel with ⟨back, leads, distinct, within⟩
      rw [leads.backtrack_size distinct] at found
      refine ⟨back, ?_, (Except.ok.inj found).symm⟩
      rcases relation with rfl | ⟨settled, -⟩
      · exact leads
      · refine leads.congr fun region member => continues.kept region ?_
        rcases List.mem_cons.mp member with rfl | before
        · exact settled
        · exact within region before
    · cases found
  · cases found

/-- A route is a way along which all labels were given. -/
theorem Weighed.route_leads (weighed : awareness.Weighed)
    (positive : ∀ weight, awareness.Weights weight → 0 < weight) {start goal : Nat}
    (startInside : start < awareness.network.size) (goalInside : goal < awareness.network.size)
    {route : List Int} (found : awareness.route start goal = .ok route)
    {final : Search.State Rat} (searched : awareness.search start none = .ok final)
    (exhausted : awareness.Exhausted start final) :
    ∃ best, route = Network.passed start best ∧
      awareness.network.Walk awareness.Knows start best goal ∧
      Along (awareness.Leads final.labels) start best goal := by
  by_cases same : start = goal
  · subst same
    cases (route_self startInside).symm.trans found
    exact ⟨[], rfl, .stay, .stay⟩
  · rcases weighed.route_leadBack positive startInside goalInside same found searched with
      ⟨back, leads, rfl⟩
    rcases Table.mem_keys_iff.mp (leads.labelled goal List.mem_cons_self) with ⟨label, isLabel⟩
    have trail := exhausted.outcome.summed.trail_of_leadBack exhausted.outcome.rooted leads goal
      back label rfl isLabel
    rcases walk_of_trail trail goal back rfl with ⟨best, isBest, summed, passes⟩
    have cheap : Network.cost awareness.weightOf best = label.cost :=
      Except.ok.inj ((weighed.total_eq isBest.mem_connections).symm.trans summed)
    refine ⟨best, ?_, isBest, ?_⟩
    · rw [← passes, List.reverse_reverse]
    · exact (exhausted.along_of_cost weighed isBest isLabel cheap).leads (passes.symm ▸ leads)

section Parting

variable {start : Nat} {final : Search.State Rat} (exhausted : awareness.Exhausted start final)

include exhausted

/-- Two ways with the same weights lead to regions at one cost. -/
theorem Exhausted.level_of_alike {common near far : List (Connection Rat)} {here there : Int}
    (along : Along (awareness.Leads final.labels) start (common ++ near) here)
    (also : Along (awareness.Attains final.labels) start (common ++ far) there)
    (alike : near.map awareness.weightOf = far.map awareness.weightOf) :
    ∃ label other, final.labels.find? here = some label ∧ final.labels.find? there = some other ∧
      label.cost = other.cost := by
  rcases along.attains.cost_eq exhausted.outcome.rooted.origin with ⟨label, isHere, sum⟩
  rcases also.cost_eq exhausted.outcome.rooted.origin with ⟨other, isThere, alsoSum⟩
  refine ⟨label, other, isHere, isThere, ?_⟩
  rw [sum, alsoSum]
  simp only [Network.cost, List.map_append, alike]

variable (positive : ∀ weight, awareness.Weights weight → 0 < weight)

include positive

/-- Where two ways part and go on through connections of the same weights, one by one, the way of
the labels takes the connection declared first, if it does not come to its end later. -/
theorem Exhausted.declared_first (weighed : awareness.Weighed) (simple : awareness.network.Simple)
    {common near far : List (Connection Rat)} {first second : Connection Rat} {here there : Int}
    (along : Along (awareness.Leads final.labels) start (common ++ first :: near) here)
    (also : Along (awareness.Attains final.labels) start (common ++ second :: far) there)
    (alike : (first :: near).map awareness.weightOf = (second :: far).map awareness.weightOf)
    (different : first ≠ second)
    (ahead : here = there ∨ rank final.settled here < rank final.settled there) :
    first.index < second.index := by
  -- going back from where the ways meet, leg by leg
  induction near using List.reverseRecOn generalizing far here there with
  | nil =>
    rcases exhausted.level_of_alike along also alike with ⟨label, other, isHere, isThere, level⟩
    have none : far = [] := by simpa using (congrArg List.length alike).symm
    subst none
    rcases along.unsnoc with ⟨before, leads⟩
    rcases also.unsnoc with ⟨alsoBefore, attains⟩
    have sameSource : (first.source : Int) = second.source := before.attains.end_unique alsoBefore
    exact exhausted.index_lt positive leads attains isHere isThere level weighed simple sameSource
      different ahead
  | append_singleton near one hypothesis =>
    rcases exhausted.level_of_alike along also alike with ⟨label, other, isHere, isThere, level⟩
    rcases List.eq_nil_or_concat' far with rfl | ⟨far, two, rfl⟩
    · simp at alike
    · have split : (first :: near).map awareness.weightOf ++ [awareness.weightOf one] =
          (second :: far).map awareness.weightOf ++ [awareness.weightOf two] := by
        simpa only [List.map_cons, List.map_append, List.map_nil, List.cons_append] using alike
      have front : ∀ (first last : Connection Rat) (rest : List (Connection Rat)),
          common ++ first :: (rest ++ [last]) = (common ++ first :: rest) ++ [last] := by
        intro first last rest
        rw [List.append_assoc, List.cons_append]
      rw [front] at along also
      rcases along.unsnoc with ⟨before, leads⟩
      rcases also.unsnoc with ⟨alsoBefore, attains⟩
      exact hypothesis before alsoBefore (List.append_inj' split rfl).1
        (exhausted.step_back positive leads attains isHere isThere level ahead)

end Parting

/-- A walk does not cost the same as a part of it that begins with it. -/
theorem Weighed.eq_of_continues (weighed : awareness.Weighed)
    (positive : ∀ weight, awareness.Weights weight → 0 < weight)
    {one two more : List (Connection Rat)}
    (isWalk : awareness.network.Walk awareness.Knows start two region)
    (same : Network.cost awareness.weightOf two = Network.cost awareness.weightOf one)
    (continues : two = one ++ more) : two = one := by
  subst continues
  have dear : ∀ connection ∈ more, 0 < awareness.weightOf connection := by
    intro connection member
    have listed := isWalk.mem_connections connection (List.mem_append_right one member)
    exact positive _ ⟨_, weighed.weight_eq listed⟩
  have free : Network.cost awareness.weightOf more ≤ 0 := by
    rw [Network.cost_append] at same
    linarith
  rw [Network.eq_nil_of_cost_le_zero dear free, List.append_nil]

/-- Of several ways of one cost the route follows one that enters whatever part it has in common
with another at the end from a region that is not farther from the start.  Where two ways part and
go on through connections of the same weights, one by one, until they meet, the route takes the
connection that was declared first. -/
theorem route_prefers_declared (weighed : awareness.Weighed)
    (positive : ∀ weight, awareness.Weights weight → 0 < weight)
    (simple : awareness.network.Simple) {start goal : Int} {route : List Int}
    (found : awareness.route start goal = .ok route) :
    ∃ best, route = Network.passed start best ∧
      awareness.network.Walk awareness.Knows start best goal ∧
      ∀ walk, awareness.network.Walk awareness.Knows start walk goal →
        awareness.total walk = awareness.total best → walk ≠ best →
        (∃ common first second rest others, best = common ++ first :: rest ∧
          walk = common ++ second :: others ∧ first ≠ second ∧
          ∀ near far, near <+: rest → far <+: others →
            awareness.Mirrors (first :: near) (second :: far) → first.index < second.index) ∧
        ∀ front back last other tail, best = front ++ last :: tail →
          walk = back ++ other :: tail →
          Network.cost awareness.weightOf front ≤ Network.cost awareness.weightOf back := by
  rcases bind_eq_ok.mp found with ⟨here, isStart, following⟩
  rcases bind_eq_ok.mp following with ⟨there, isGoal, -⟩
  rcases Network.indexOf_eq_ok_iff.mp isStart with ⟨rfl, startInside⟩
  rcases Network.indexOf_eq_ok_iff.mp isGoal with ⟨rfl, goalInside⟩
  rcases weighed.search_exhausts positive startInside with ⟨final, searched, exhausted⟩
  have origin := exhausted.outcome.rooted.origin
  rcases weighed.route_leads positive startInside goalInside found searched exhausted with
    ⟨best, isRoute, isBest, along⟩
  refine ⟨best, isRoute, isBest, fun walk isWalk sameTotal different => ?_⟩
  have sameCost : Network.cost awareness.weightOf walk = Network.cost awareness.weightOf best :=
    Except.ok.inj ((weighed.total_eq isWalk.mem_connections).symm.trans
      (sameTotal.trans (weighed.total_eq isBest.mem_connections)))
  rcases along.attains.cost_eq origin with ⟨label, isLabel, sum⟩
  have also := exhausted.along_of_cost weighed isWalk isLabel (sameCost.trans sum.symm)
  constructor
  · rcases exists_parting
      (fun more continues =>
        different (weighed.eq_of_continues positive isWalk sameCost continues))
      (fun more continues =>
        different (weighed.eq_of_continues positive isBest sameCost.symm continues).symm) with
      ⟨common, first, second, rest, others, rfl, rfl, apart⟩
    refine ⟨common, first, second, rest, others, rfl, rfl, apart, ?_⟩
    rintro near far ⟨nearMore, rfl⟩ ⟨farMore, rfl⟩ ⟨alike, meet⟩
    rw [← List.cons_append, ← List.append_assoc] at along also
    rcases along.of_append with ⟨here, toHere⟩
    rcases also.of_append with ⟨there, toThere⟩
    have same : here = there := by
      rw [toHere.attains.getLast?_eq (List.cons_ne_nil _ _),
        toThere.getLast?_eq (List.cons_ne_nil _ _)] at meet
      exact Option.some.inj meet
    exact exhausted.declared_first positive weighed simple toHere toThere alike apart (Or.inl same)
  · rintro front back last other tail rfl rfl
    rw [List.append_cons] at along also
    rcases along.cancel also with ⟨middle, toMiddle, alsoMiddle⟩
    rcases toMiddle.unsnoc with ⟨before, leads⟩
    rcases alsoMiddle.unsnoc with ⟨alsoBefore, attains⟩
    rcases leads.2 with ⟨reached, isReached, -⟩
    rcases before.attains.cost_eq origin with ⟨near, isNear, nearSum⟩
    rcases alsoBefore.cost_eq origin with ⟨far, isFar, farSum⟩
    rw [← nearSum, ← farSum]
    rcases exhausted.step_back positive leads attains isReached isReached rfl (Or.inl rfl) with
      same | sooner
    · rw [same] at isNear
      cases isNear.symm.trans isFar
      exact le_rfl
    · exact (exhausted.traced.inOrder _ (exhausted.settled _ near isNear) _ near far isNear isFar
        sooner).1

/-- In the fork without factors, from the first room to the last. -/
theorem route_prefers_declared_in_fork :
    (inFork ∅).Weighed ∧ (∀ weight, (inFork ∅).Weights weight → 0 < weight) ∧
    (inFork ∅).network.Simple ∧ (inFork ∅).route 0 3 = .ok [0, 1, 3] ∧
    ∃ best, [0, 1, 3] = Network.passed 0 best ∧
      (inFork ∅).network.Walk (inFork ∅).Knows 0 best 3 ∧
      ∀ walk, (inFork ∅).network.Walk (inFork ∅).Knows 0 walk 3 →
        (inFork ∅).total walk = (inFork ∅).total best → walk ≠ best →
        (∃ common first second rest others, best = common ++ first :: rest ∧
          walk = common ++ second :: others ∧ first ≠ second ∧
          ∀ near far, near <+: rest → far <+: others →
            (inFork ∅).Mirrors (first :: near) (second :: far) → first.index < second.index) ∧
        ∀ front back last other tail, best = front ++ last :: tail →
          walk = back ++ other :: tail →
          Network.cost (inFork ∅).weightOf front ≤ Network.cost (inFork ∅).weightOf back := by
  have sound := inFork_sound ∅
  have view : ((inFork ∅).route 0 3).toOption.map id = some [0, 1, 3] := by decide +kernel
  rcases exists_of_view view with ⟨route, found, rfl⟩
  exact ⟨sound.weighed, sound.weights_pos, Building.fork_simple, found,
    route_prefers_declared sound.weighed sound.weights_pos Building.fork_simple found⟩

/-- The fork with smoke in the first door of the upper way and in the second door of the lower
one. -/
def slantedFork : Awareness Rat :=
  inFork (((∅ : Table Nat (Table String Rat)).insert 0 ((∅ : Table String Rat).insert "smoke" 1.5))
    |>.insert 7 ((∅ : Table String Rat).insert "smoke" 1.5))

/-- Where the weights of two ways differ one by one, the route may leave the region where they part
by the connection that was declared later. -/
theorem route_defers_declared :
    slantedFork.Weighed ∧ (∀ weight, slantedFork.Weights weight → 0 < weight) ∧
    slantedFork.network.Simple ∧ slantedFork.route 0 3 = .ok [0, 2, 3] ∧
    ∃ first rest second others, Network.passed 0 (first :: rest) = [0, 2, 3] ∧
      slantedFork.network.Walk slantedFork.Knows 0 (first :: rest) 3 ∧
      slantedFork.network.Walk slantedFork.Knows 0 (second :: others) 3 ∧
      slantedFork.total (second :: others) = slantedFork.total (first :: rest) ∧
      first ≠ second ∧ second.index < first.index := by
  have sound : slantedFork.Sound := inFork_sound _
  have view : (slantedFork.route 0 3).toOption.map id = some [0, 2, 3] := by decide +kernel
  rcases exists_of_view view with ⟨route, found, rfl⟩
  have listed : ∀ source target index weight,
      (∃ connection ∈ slantedFork.network.connections, (connection.source : Int) = source ∧
        connection.destination = some target ∧ connection.index = index ∧
        slantedFork.weightOf connection = weight) →
      ∃ connection ∈ slantedFork.network.connections, connection.destination = some target ∧
        connection.index = index ∧ slantedFork.weightOf connection = weight ∧
        ∀ rest region, slantedFork.network.Walk slantedFork.Knows target rest region →
          slantedFork.network.Walk slantedFork.Knows source (connection :: rest) region := by
    rintro source target index weight ⟨connection, member, rfl, isTarget, isIndex, isWeight⟩
    exact ⟨connection, member, isTarget, isIndex, isWeight,
      fun rest region isWalk => isWalk.cons (Or.inl rfl) member isTarget⟩
  rcases listed 0 2 1 3 (by decide +kernel) with
    ⟨toLower, lowerMember, isLower, lowerIndex, lowerWeight, fromLower⟩
  rcases listed 2 3 7 4.5 (by decide +kernel) with
    ⟨lowerOut, -, isLowerOut, -, lowerOutWeight, fromLowerOut⟩
  rcases listed 0 1 0 4.5 (by decide +kernel) with
    ⟨toUpper, -, -, upperIndex, upperWeight, fromUpper⟩
  rcases listed 1 3 4 3 (by decide +kernel) with
    ⟨upperOut, -, -, -, upperOutWeight, fromUpperOut⟩
  have lowerWalk := fromLower _ _ (fromLowerOut [] 3 .stay)
  have upperWalk := fromUpper _ _ (fromUpperOut [] 3 .stay)
  have less : toUpper.index < toLower.index := by omega
  refine ⟨sound.weighed, sound.weights_pos, Building.fork_simple, found, toLower, [lowerOut],
    toUpper, [upperOut], ?_, lowerWalk, upperWalk, ?_, ?_, less⟩
  · rw [Network.passed_cons isLower, Network.passed_cons isLowerOut]
    rfl
  · rw [sound.total_eq upperWalk.mem_connections, sound.total_eq lowerWalk.mem_connections]
    refine congrArg Except.ok ?_
    simp only [Network.cost, List.map_cons, List.map_nil, List.sum_cons, List.sum_nil, upperWeight,
      upperOutWeight, lowerWeight, lowerOutWeight]
    norm_num
  · rintro rfl
    exact Nat.lt_irrefl _ less

end Awareness

end Egress
