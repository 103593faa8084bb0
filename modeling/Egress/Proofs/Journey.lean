import Mathlib.Logic.Relation
import Egress.Proofs.History
import Egress.Proofs.Livelock
import Egress.Proofs.Verdict

/-!
# Journeys

An agent travels in rounds: the sensors are run for all agents, the agent asks for its next hop, and
it moves to a point of the region that it is sent to.  Each round rewrites the weights of the doors
around the agent.  Nevertheless, as long as the conditions stay as they are, an agent that has a
route at first always has one, and it arrives after finitely many rounds.

The conditions, the categories and the factors may be what they like, and sensors may fail.  What
counts is that sensors judge a door by nothing that changes except by the agent's memory, so doors
that lead to regions which the agent does not visit again and again keep the factors that they have
got.
-/

namespace Egress

variable {σ : Type} [Outline σ Rat]

namespace Awareness

/-- The effective weight of a connection of the network. -/
def weightOf (awareness : Awareness Rat) (connection : Connection Rat) : Rat :=
  (awareness.weight connection.index).toOption.getD 0

variable {awareness : Awareness Rat}

theorem Weighed.weight_eq (weighed : awareness.Weighed) {connection : Connection Rat}
    (member : connection ∈ awareness.network.connections) :
    awareness.weight connection.index = .ok (awareness.weightOf connection) := by
  rcases weighed.weighed connection member with ⟨weight, isWeight⟩
  unfold weightOf
  rw [isWeight]
  rfl

theorem Sound.weightOf_pos (sound : awareness.Sound) {connection : Connection Rat}
    (member : connection ∈ awareness.network.connections) : 0 < awareness.weightOf connection := by
  rcases sound.bounded with ⟨low, high, bounded⟩
  exact Tariff.weight_pos bounded (sound.weighed.weight_eq member)

/-- The total of a walk is the sum of its weights. -/
theorem Weighed.total_eq (weighed : awareness.Weighed) {walk : List (Connection Rat)}
    (within : ∀ connection ∈ walk, connection ∈ awareness.network.connections) :
    awareness.total walk = .ok (Network.cost awareness.weightOf walk) := by
  have onward : ∀ sum : Rat, walk.foldlM
      (fun sum connection => do return sum + (← awareness.weight connection.index)) sum =
        (.ok (sum + Network.cost awareness.weightOf walk) : Except (Fault Rat) Rat) := by
    induction walk with
    | nil =>
      intro sum
      exact congrArg Except.ok (add_zero sum).symm
    | cons connection rest hypothesis =>
      intro sum
      have others := hypothesis fun other member => within other (List.mem_cons_of_mem _ member)
      rw [List.foldlM_cons, weighed.weight_eq (within connection List.mem_cons_self)]
      refine (others (sum + awareness.weightOf connection)).trans (congrArg Except.ok ?_)
      simp only [Network.cost, List.map_cons, List.sum_cons]
      exact add_assoc _ _ _
  refine (onward Scalar.zero).trans (congrArg Except.ok ?_)
  exact zero_add _

theorem Sound.total_eq (sound : awareness.Sound) {walk : List (Connection Rat)}
    (within : ∀ connection ∈ walk, connection ∈ awareness.network.connections) :
    awareness.total walk = .ok (Network.cost awareness.weightOf walk) :=
  sound.weighed.total_eq within

/-- The weight of a connection depends on nothing but its table of factors. -/
theorem Grows.weightOf_eq {before after : Awareness Rat} (grows : Grows before after)
    {connection : Connection Rat}
    (same : after.tariff.of connection.index = before.tariff.of connection.index) :
    after.weightOf connection = before.weightOf connection := by
  unfold weightOf weight Tariff.weight Tariff.effective Tariff.indexOf Tariff.product
  rw [grows.baseCosts, grows.lowest, grows.highest]
  split
  · simp only [Int.toNat_natCast, bind, Except.bind, same]
  · rfl

/-- What is out of reach depends on what is known, not on weights. -/
theorem Grows.outOfReach_iff {before after : Awareness Rat} (grows : Grows before after)
    (learnt : ∀ region, after.Knows region → before.Knows region) (start goal : Int) :
    after.OutOfReach start goal ↔ before.OutOfReach start goal := by
  unfold OutOfReach
  rw [grows.knows_eq learnt, grows.network]

end Awareness

namespace Guidance

/-- The agent stands in a region. -/
def StandsIn (guidance : Guidance Rat) (building : Building Rat σ) (pid : Int) (region : Nat) :
    Prop :=
  ∃ member here, guidance.members.find? pid = some member ∧
    guidance.network.regionFor building member.agent.position member.agent.floor = .ok here ∧
    here.index = region

/-- One round: the sensors are run, the agent is sent to a region, and it moves to a point there. -/
def Round (world : World Rat σ) (pid : Int) (target : Target Rat σ) (before after : Guidance Rat) :
    Prop :=
  ∃ time asked member hop position floor region,
    (before.step world time).1.members.find? pid = some member ∧
    ((before.step world time).1.nextHop world.building pid target asked).1 = .ok (.region hop) ∧
    before.network.regionFor world.building position (floor <|> member.agent.floor) = .ok region ∧
    region.index = hop.index ∧
    after = ((before.step world time).1.move world pid position floor).1

/-- An agent on its way: it is located, and its goal is within reach of what it knows. -/
structure Underway (initial : Guidance Rat) (building : Building Rat σ) (pid : Int) (goal : Nat)
    (guidance : Guidance Rat) (member : Member Rat) (here : Region Rat) : Prop where
  consistent : Consistent building initial guidance
  isMember : guidance.members.find? pid = some member
  located : initial.network.regionFor building member.agent.position member.agent.floor = .ok here
  within : ¬ member.awareness.OutOfReach here.index goal

variable {initial guidance : Guidance Rat} {world : World Rat σ} {pid : Int} {goal : Nat}
  {member : Member Rat} {here : Region Rat}

namespace Underway

theorem placed (underway : Underway initial world.building pid goal guidance member here) :
    initial.Placed world.building member :=
  underway.consistent.placed pid member underway.isMember

theorem knows_here (underway : Underway initial world.building pid goal guidance member here) :
    member.agent.region = some ↑here.index ∧ member.awareness.Knows here.index := by
  rcases underway.placed.located with ⟨region, located, isRegion, isKnown⟩
  cases located.symm.trans underway.located
  exact ⟨isRegion, isKnown⟩

/-- A step reweighs what the agent knows and changes nothing else of it. -/
theorem step (underway : Underway initial world.building pid goal guidance member here)
    (priced : initial.network.Priced initial.settings)
    (builtIn : ∀ sensor ∈ initial.suite.sensors, sensor.isBuiltIn = true) (time : Value Rat) :
    ∃ after, Underway initial world.building pid goal (guidance.step world time).1 after here ∧
      after.agent = member.agent ∧
      Awareness.Reweighed (initial.suite.Due world initial.network here (· ∈ member.agent.history))
        member.awareness after.awareness := by
  rcases underway.placed.sound priced with ⟨sound, isNetwork⟩
  have stepped := underway.consistent.step world time
  have located := underway.located
  rw [← isNetwork] at located
  have reweighed := Suite.run_reweighs builtIn sound.formed located underway.knows_here.2
  rw [isNetwork] at reweighed
  rcases guidance.step_find? world time pid with same | ⟨before, isBefore, ran⟩
  · refine ⟨member, ⟨stepped, same.trans underway.isMember, underway.located, underway.within⟩,
      rfl, ⟨.refl _, fun _ isKnown => isKnown, fun _ _ => .none⟩⟩
  · cases isBefore.symm.trans underway.isMember
    rw [underway.consistent.frame.2.1] at ran
    refine ⟨_, ⟨stepped, ran, underway.located, ?_⟩, rfl, reweighed⟩
    intro outOfReach
    exact underway.within ((reweighed.grows.outOfReach_iff reweighed.known _ _).mp outOfReach)

/-- A round takes an agent from where it stands, along the first connection of a cheapest walk, to a
region from which the goal is still within reach. -/
theorem round (underway : Underway initial world.building pid goal guidance member here)
    (priced : initial.network.Priced initial.settings)
    (builtIn : ∀ sensor ∈ initial.suite.sensors, sensor.isBuiltIn = true)
    {target : Target Rat σ} {region : Region Rat} (isGoal : region.index = goal)
    (inside : goal < initial.network.size)
    (steady : ∀ floor, initial.resolve world.building floor target = .ok region)
    {next : Guidance Rat} (round : Round world pid target guidance next) :
    ∃ after there, Underway initial world.building pid goal next after there ∧
      Awareness.Reweighed (initial.suite.Due world initial.network here (· ∈ member.agent.history))
        member.awareness after.awareness ∧
      after.agent.bound = member.agent.bound ∧
      after.agent.history =
        Agent.recent member.agent.bound (member.agent.history ++ [(here.index : Int)]) ∧
      here.index ≠ goal ∧
      ∃ connection rest cost labels, connection.destination = some ↑there.index ∧
        initial.network.Walk after.awareness.Knows here.index (connection :: rest) goal ∧
        after.awareness.total (connection :: rest) = .ok cost ∧
        after.awareness.Shortest here.index labels goal cost := by
  rcases round with
    ⟨time, asked, traveller, hop, position, floor, there, isTraveller, sent, located, isHop, rfl⟩
  rcases underway.step priced builtIn time with ⟨ready, stepped, sameAgent, reweighed⟩
  cases stepped.isMember.symm.trans isTraveller
  rcases stepped.placed.sound priced with ⟨sound, isNetwork⟩
  rcases stepped.consistent.frame with ⟨network, -⟩
  have resolved : (guidance.step world time).1.resolve world.building traveller.agent.floor target =
      .ok region := (resolve_congr network _ _ _).trans (steady _)
  rw [nextHop_of_resolve isTraveller resolved, isGoal] at sent
  have standing := stepped.located
  rw [← isNetwork] at standing inside
  rcases sound.nextHop_cases sound.laws standing inside stepped.within with
    ⟨-, point, arrived⟩ | ⟨apart, way, connection, rest, cost, labels, ahead, isNext, isWalk,
      wayKnown, different, summed, shortest⟩
  · cases arrived.symm.trans sent
  · cases ahead.symm.trans sent
    have goalKnown : traveller.awareness.Knows goal := by
      by_contra unknown
      exact stepped.within ⟨fun same => apart (Int.ofNat.inj same), Or.inl unknown⟩
    rw [underway.consistent.frame.1] at located
    have locatedNow : (guidance.step world time).1.network.regionFor world.building position
        (floor <|> traveller.agent.floor) = .ok there := by
      rw [network]
      exact located
    have thereInside : there.index < traveller.awareness.network.size := by
      rw [← isNetwork] at located
      exact sound.formed.region_lt_of_mem (Network.regionFor_mem located)
    rw [← isHop] at isNext wayKnown different
    have standsHere : traveller.agent.region = some ↑here.index := stepped.knows_here.1
    have apartThere : (here.index : Int) ≠ there.index :=
      fun same => different (Int.ofNat.inj same).symm
    rcases move_of_knows isTraveller locatedNow thereInside wayKnown standsHere apartThere with
      ⟨after, isAfter, sameAwareness, isPosition, isFloor, isBound, isHistory⟩
    rcases isWalk.uncons with ⟨-, -, -, next, isSame, onward⟩
    cases isNext.symm.trans isSame
    refine ⟨after, there,
      ⟨stepped.consistent.move world.conditions pid position floor, isAfter, ?_, ?_⟩, ?_, ?_, ?_,
      apart, connection, rest, cost, labels, isNext, ?_, ?_, ?_⟩
    · rw [isPosition, isFloor]
      exact located
    · rw [sameAwareness]
      rintro ⟨-, unknown | noWalk⟩
      · exact unknown goalKnown
      · exact noWalk ⟨rest, onward⟩
    · rw [sameAwareness]
      exact reweighed
    · rw [isBound, ← sameAgent]
    · rw [isHistory, ← sameAgent]
    · rw [sameAwareness, ← isNetwork]
      exact isWalk
    · rw [sameAwareness]
      exact summed
    · rw [sameAwareness]
      exact shortest

end Underway

/-! ## Journeys without end -/

/-- A journey that goes on for ever, seen from the agent. -/
structure Travels (initial : Guidance Rat) (world : World Rat σ) (pid : Int) (goal : Nat)
    (states : Nat → Guidance Rat) (member : Nat → Member Rat) (here : Nat → Region Rat) : Prop where
  underway : ∀ time,
    Underway initial world.building pid goal (states time) (member time) (here time)
  reweighed : ∀ time, Awareness.Reweighed
    (initial.suite.Due world initial.network (here time) (· ∈ (member time).agent.history))
    (member time).awareness (member (time + 1)).awareness
  bound : ∀ time, (member (time + 1)).agent.bound = (member time).agent.bound
  history : ∀ time, (member (time + 1)).agent.history = Agent.recent (member time).agent.bound
    ((member time).agent.history ++ [((here time).index : Int)])
  away : ∀ time, (here time).index ≠ goal
  onward : ∀ time, ∃ connection rest cost labels,
    connection.destination = some ↑(here (time + 1)).index ∧
    initial.network.Walk (member (time + 1)).awareness.Knows (here time).index (connection :: rest)
      goal ∧
    (member (time + 1)).awareness.total (connection :: rest) = .ok cost ∧
    (member (time + 1)).awareness.Shortest (here time).index labels goal cost

/-- Rounds without end make a journey without end. -/
theorem exists_travels (priced : initial.network.Priced initial.settings)
    (builtIn : ∀ sensor ∈ initial.suite.sensors, sensor.isBuiltIn = true)
    {target : Target Rat σ} {region : Region Rat} (isGoal : region.index = goal)
    (inside : goal < initial.network.size)
    (steady : ∀ floor, initial.resolve world.building floor target = .ok region)
    {states : Nat → Guidance Rat}
    (first : ∃ member here, Underway initial world.building pid goal (states 0) member here)
    (rounds : ∀ time, Round world pid target (states time) (states (time + 1))) :
    ∃ member here, Travels initial world pid goal states member here := by
  have always : ∀ time, ∃ member here,
      Underway initial world.building pid goal (states time) member here := by
    intro time
    induction time with
    | zero => exact first
    | succ time hypothesis =>
      rcases hypothesis with ⟨member, here, underway⟩
      rcases underway.round priced builtIn isGoal inside steady (rounds time) with
        ⟨after, there, next, -⟩
      exact ⟨after, there, next⟩
  choose member here underway using always
  have each : ∀ time, _ := fun time =>
    (underway time).round priced builtIn isGoal inside steady (rounds time)
  have same : ∀ time after there,
      Underway initial world.building pid goal (states (time + 1)) after there →
        after = member (time + 1) ∧ there = here (time + 1) := by
    intro time after there next
    have isMember := next.isMember.symm.trans (underway (time + 1)).isMember
    cases isMember
    exact ⟨rfl, Except.ok.inj (next.located.symm.trans (underway (time + 1)).located)⟩
  refine ⟨member, here, underway, ?_, ?_, ?_, ?_, ?_⟩
  all_goals
    intro time
    rcases each time with ⟨after, there, next, reweighed, bound, history, away, onward⟩
    rcases same time after there next with ⟨rfl, rfl⟩
  · exact reweighed
  · exact bound
  · exact history
  · exact away
  · exact onward

namespace Travels

open Filter Network

variable {states : Nat → Guidance Rat} {member : Nat → Member Rat} {here : Nat → Region Rat}

theorem sound (travels : Travels initial world pid goal states member here)
    (priced : initial.network.Priced initial.settings) (time : Nat) :
    (member time).awareness.Sound ∧ (member time).awareness.network = initial.network :=
  (travels.underway time).placed.sound priced

theorem inside (travels : Travels initial world pid goal states member here)
    (priced : initial.network.Priced initial.settings) (time : Nat) :
    (0 : Int) ≤ (here time).index ∧ ((here time).index : Int) < initial.network.size := by
  have isRegion := Network.regionFor_mem (travels.underway time).located
  have lower := priced.formed.region_lt_of_mem isRegion
  exact ⟨Int.natCast_nonneg _, Int.ofNat_lt.mpr lower⟩

theorem grows (travels : Travels initial world pid goal states member here) {early late : Nat}
    (ordered : early ≤ late) : (member early).awareness.Grows (member late).awareness := by
  induction late, ordered using Nat.le_induction with
  | base => exact .refl _
  | succ late _ hypothesis => exact hypothesis.trans (travels.reweighed late).grows

/-- On a journey nothing new is learnt. -/
theorem knows_eq (travels : Travels initial world pid goal states member here) (time : Nat) :
    (member time).awareness.Knows = (member 0).awareness.Knows := by
  induction time with
  | zero => rfl
  | succ time hypothesis =>
    exact ((travels.reweighed time).grows.knows_eq (travels.reweighed time).known).trans hypothesis

/-- The agent comes to remember only regions that it visits again and again. -/
theorem eventually_forgets (travels : Travels initial world pid goal states member here)
    (priced : initial.network.Priced initial.settings) :
    ∀ᶠ time in atTop, ∀ region ∈ (member time).agent.history,
      Recurrent (fun time => ((here time).index : Int)) region := by
  rcases (travels.underway 0).placed.bounded with ⟨most, isBound⟩
  have bounds : ∀ time, (member time).agent.bound = some most := by
    intro time
    induction time with
    | zero => exact isBound
    | succ time hypothesis => exact (travels.bound time).trans hypothesis
  have left : ∀ time, (member (time + 1)).agent.history =
      Agent.recent (some most) ((member time).agent.history ++ [((here time).index : Int)]) := by
    intro time
    rw [← bounds time]
    exact travels.history time
  rcases eventually_atTop.mp (eventually_recurrent (travels.inside priced)) with ⟨start, late⟩
  exact eventually_atTop.mpr ⟨start + (most + 1), Agent.history_forgets left late⟩

omit [Outline σ Rat] in
/-- At most one factor is due for a door that leads away, from each sensor. -/
theorem due_unique (priced : initial.network.Priced initial.settings)
    (distinct : initial.suite.names.Nodup) {place : Nat → Int} {connection : Connection Rat}
    (leads : LeadsAway place connection) {source other : Region Rat}
    (isSource : source ∈ initial.network.regions) (isOther : other ∈ initial.network.regions)
    {name : String} {first second : Rat}
    (dueFirst : initial.suite.Due world initial.network source (Recurrent place) connection name
      first)
    (dueSecond : initial.suite.Due world initial.network other (Recurrent place) connection name
      second) : first = second := by
  rcases dueFirst with ⟨leaves, sensor, isSensor, isName, recent, value, recalled, said, number⟩
  rcases dueSecond with ⟨leaves', sensor', isSensor', isName', recent', value', recalled', said',
    number'⟩
  have sameSource : source = other :=
    priced.formed.region_unique isSource isOther (leaves.symm.trans leaves')
  have sameSensor : sensor = sensor' :=
    List.inj_on_of_nodup_map distinct isSensor isSensor' (isName.trans isName'.symm)
  subst sameSource sameSensor
  have alike : ∀ next, connection.destination = some next → (next ∈ recent ↔ next ∈ recent') := by
    intro next isNext
    constructor
    · exact fun member => absurd (recalled next member) (leads next isNext)
    · exact fun member => absurd (recalled' next member) (leads next isNext)
  rw [Sensor.verdict_congr world initial.network source alike] at said
  cases said.symm.trans said'
  exact Except.ok.inj (number.symm.trans number')

/-- The factors on a door that leads away come to rest. -/
theorem eventually_settles (travels : Travels initial world pid goal states member here)
    (priced : initial.network.Priced initial.settings) (distinct : initial.suite.names.Nodup)
    {connection : Connection Rat} (isConnection : connection ∈ initial.network.connections)
    (leads : LeadsAway (fun time => ((here time).index : Int)) connection) :
    ∃ final, ∀ᶠ time in atTop, (member time).awareness.tariff.of connection.index = final := by
  apply Table.eventually_settles initial.suite.names.toFinset
    fun name factor => ∃ source ∈ initial.network.regions,
      initial.suite.Due world initial.network source
        (Recurrent fun time => ((here time).index : Int)) connection name factor
  · rintro name factor ⟨source, -, -, sensor, isSensor, rfl, -⟩
    exact List.mem_toFinset.mpr (List.mem_map_of_mem isSensor)
  · rintro name first second ⟨source, isSource, dueFirst⟩ ⟨other, isOther, dueSecond⟩
    exact due_unique priced distinct leads isSource isOther dueFirst dueSecond
  · refine (travels.eventually_forgets priced).mono fun time forgets => ?_
    have written := (travels.reweighed time).tables connection
      ((travels.sound priced time).2 ▸ isConnection)
    refine written.mono ?_
    rintro name factor ⟨leaves, sensor, isSensor, isName, recent, value, recalled, said, number⟩
    exact ⟨here time, Network.regionFor_mem (travels.underway time).located, leaves, sensor,
      isSensor, isName, recent, value, fun region member => forgets region (recalled region member),
      said, number⟩

/-- A journey without end would be an endless journey through weights that come to rest. -/
theorem endless (travels : Travels initial world pid goal states member here)
    (priced : initial.network.Priced initial.settings) (distinct : initial.suite.names.Nodup) :
    Endless initial.network (member 0).awareness.Knows goal (fun time => ((here time).index : Int))
      fun time => (member (time + 1)).awareness.weightOf where
  inside := travels.inside priced
  away := fun time same => travels.away time (Int.ofNat.inj same)
  positive := by
    intro time connection isConnection
    rcases travels.sound priced (time + 1) with ⟨sound, isNetwork⟩
    exact sound.weightOf_pos (isNetwork ▸ isConnection)
  onward := by
    intro time
    rcases travels.sound priced (time + 1) with ⟨sound, isNetwork⟩
    rcases travels.onward time with
      ⟨connection, rest, cost, labels, isNext, isWalk, summed, least, -⟩
    have known := travels.knows_eq (time + 1)
    refine ⟨connection, rest, isNext, known ▸ isWalk, ?_⟩
    intro other isOther
    have total := fun {walk : List (Connection Rat)}
      (isWalk : initial.network.Walk (member 0).awareness.Knows (here time).index walk goal) =>
        sound.total_eq fun connection inside => isNetwork ▸ isWalk.mem_connections connection inside
    rcases least other (by rw [isNetwork, known]; exact isOther) with ⟨sum, isSum, lower⟩
    cases isSum.symm.trans (total isOther)
    cases summed.symm.trans (total (known ▸ isWalk))
    exact lower
  resting := by
    intro connection isConnection leads
    rcases travels.eventually_settles priced distinct isConnection leads with ⟨final, settles⟩
    rcases eventually_atTop.mp settles with ⟨start, rests⟩
    refine ⟨(member start).awareness.weightOf connection, eventually_atTop.mpr ⟨start, ?_⟩⟩
    intro time reached
    apply (travels.grows (Nat.le_succ_of_le reached)).weightOf_eq
    rw [rests start (Nat.le_refl start), rests (time + 1) (Nat.le_succ_of_le reached)]

end Travels

/-! ## Arrival -/

/-- Where a next hop is not refused for want of a route, the agent is on its way. -/
theorem exists_underway (priced : initial.network.Priced initial.settings)
    (consistent : Consistent world.building initial guidance)
    (isMember : guidance.members.find? pid = some member) {target : Target Rat σ}
    {region : Region Rat} (inside : region.index < initial.network.size)
    (resolved : guidance.resolve world.building member.agent.floor target = .ok region)
    {time : Value Rat}
    (routed : ∀ first second, (guidance.nextHop world.building pid target time).1 ≠
      .error (.noRoute first second)) :
    ∃ here, Underway initial world.building pid region.index guidance member here := by
  have placed := consistent.placed pid member isMember
  rcases placed.sound priced with ⟨sound, isNetwork⟩
  rcases placed.located with ⟨here, located, -, -⟩
  refine ⟨here, consistent, isMember, located, ?_⟩
  intro outOfReach
  rw [← isNetwork] at located inside
  rcases Awareness.nextHop_eq sound.formed located inside with ⟨goal, -, hop⟩
  have apart : ¬ here.index = region.index := fun same => outOfReach.1 (congrArg Int.ofNat same)
  have hereInside := sound.formed.region_lt_of_mem (Network.regionFor_mem located)
  apply routed here.index region.index
  rw [nextHop_of_resolve isMember resolved, hop, if_neg apart,
    sound.route_of_outOfReach sound.laws hereInside inside outOfReach]
  rfl

/-- On its way an agent is never without a next hop, and unless it has arrived it is sent to a
region. -/
theorem Underway.exists_hop
    (underway : Underway initial world.building pid goal guidance member here)
    (priced : initial.network.Priced initial.settings)
    (builtIn : ∀ sensor ∈ initial.suite.sensors, sensor.isBuiltIn = true)
    {target : Target Rat σ} {region : Region Rat} (isGoal : region.index = goal)
    (inside : goal < initial.network.size)
    (steady : ∀ floor, initial.resolve world.building floor target = .ok region)
    (time asked : Value Rat) :
    ∃ hop, ((guidance.step world time).1.nextHop world.building pid target asked).1 = .ok hop ∧
      (¬ guidance.StandsIn world.building pid goal → ∃ next, hop = .region next) := by
  rcases underway.step priced builtIn time with ⟨after, stepped, -, -⟩
  rcases stepped.placed.sound priced with ⟨sound, isNetwork⟩
  rcases stepped.consistent.frame with ⟨network, -⟩
  have resolved : (guidance.step world time).1.resolve world.building after.agent.floor target =
      .ok region := (resolve_congr network _ _ _).trans (steady _)
  rw [nextHop_of_resolve stepped.isMember resolved, isGoal]
  have standing := stepped.located
  rw [← isNetwork] at standing inside
  rcases sound.nextHop_cases sound.laws standing inside stepped.within with
    ⟨arrived, point, isHop⟩ | ⟨-, next, connection, rest, cost, labels, isHop, -⟩
  · refine ⟨.point point, isHop, ?_⟩
    intro elsewhere
    refine absurd ⟨member, here, underway.isMember, ?_, arrived⟩ elsewhere
    rw [underway.consistent.frame.1]
    exact underway.located
  · exact ⟨.region next, isHop, fun _ => ⟨next, rfl⟩⟩

/-- Under conditions that stay as they are, an agent that has a route to a region always has a next
hop on its way there, and it stands in the region after finitely many rounds.  The usual sensors may
follow other settings and read other conditions than those of the guidance. -/
theorem arrives {network : Network Rat} {settings : Settings Rat} (priced : network.Priced settings)
    {field sensed : Option Nat} {rules : Settings Rat} {world : World Rat σ}
    {guidance : Guidance Rat}
    (reachable : Reachable world.building
      (ofNetwork network (Suite.standard sensed rules) field settings) guidance)
    {pid : Int} {member : Member Rat} (isMember : guidance.members.find? pid = some member)
    {target : Target Rat σ} {goal : Region Rat}
    (steady : ∀ floor, guidance.resolve world.building floor target = .ok goal)
    (inside : goal.index < network.size) {time : Value Rat}
    (routed : ∀ first second, (guidance.nextHop world.building pid target time).1 ≠
      .error (.noRoute first second)) :
    (∀ later, Relation.ReflTransGen (Round world pid target) guidance later → ∀ time asked,
      ∃ hop, ((later.step world time).1.nextHop world.building pid target asked).1 = .ok hop ∧
        (¬ later.StandsIn world.building pid goal.index → ∃ next, hop = .region next)) ∧
    ∀ states : Nat → Guidance Rat, states 0 = guidance →
      (∀ count, ¬ (states count).StandsIn world.building pid goal.index →
        Round world pid target (states count) (states (count + 1))) →
      ∃ count, (states count).StandsIn world.building pid goal.index := by
  have consistent := reachable.consistent rfl
  have builtIn := Suite.standard_builtIn sensed rules
  have always : ∀ floor, (ofNetwork network (Suite.standard sensed rules) field settings).resolve
      world.building floor target = .ok goal := fun floor =>
    (resolve_congr consistent.frame.1 _ _ _).symm.trans (steady floor)
  rcases exists_underway priced consistent isMember inside (steady _) routed with ⟨here, underway⟩
  constructor
  · intro later rounds
    have onTheWay : ∃ member here,
        Underway (ofNetwork network (Suite.standard sensed rules) field settings) world.building
          pid goal.index later member here := by
      induction rounds with
      | refl => exact ⟨member, here, underway⟩
      | tail _ round hypothesis =>
        rcases hypothesis with ⟨member, here, before⟩
        rcases before.round priced builtIn rfl inside always round with ⟨after, there, next, -⟩
        exact ⟨after, there, next⟩
    rcases onTheWay with ⟨traveller, there, current⟩
    exact current.exists_hop priced builtIn rfl inside always
  · intro states first rounds
    by_contra never
    have elsewhere := not_exists.mp never
    rcases exists_travels priced builtIn rfl inside always ⟨member, here, first ▸ underway⟩
      (fun count => rounds count (elsewhere count)) with ⟨members, places, travels⟩
    exact (travels.endless priced (Suite.standard_names sensed rules)).not_endless

/-- In the row, an agent that knows everything gets from the first room to the last. -/
theorem arrives_in_row :
    (∀ later, Relation.ReflTransGen (Round calmRow 1 eastward) (inRow true) later →
      ∀ time asked, ∃ hop,
        ((later.step calmRow time).1.nextHop calmRow.building 1 eastward asked).1 =
          .ok hop ∧
        (¬ later.StandsIn calmRow.building 1 Building.lastInRow.index →
          ∃ next, hop = .region next)) ∧
    ∀ states : Nat → Guidance Rat, states 0 = inRow true →
      (∀ count, ¬ (states count).StandsIn calmRow.building 1 Building.lastInRow.index →
        Round calmRow 1 eastward (states count) (states (count + 1))) →
      ∃ count, (states count).StandsIn calmRow.building 1 Building.lastInRow.index := by
  have inside : Building.lastInRow.index < Building.rowNetwork.size := by decide +kernel
  have granted : isRefusal ((inRow true).nextHop calmRow.building 1 eastward .null).1 = false := by
    decide +kernel
  have routed : ∀ first second, ((inRow true).nextHop calmRow.building 1 eastward .null).1 ≠
      .error (.noRoute first second) := by
    intro first second noRoute
    rw [isRefusal_iff.mpr ⟨first, second, noRoute⟩] at granted
    cases granted
  exact arrives Building.row_priced (inRow_reachable true) (find?_inRow true) (fun _ => rfl) inside
    routed

end Guidance

end Egress
