import Egress.Proofs.Discovery
import Egress.Proofs.Table

/-!
# One topology in three places

The connections of a network stand in one list, and two views are made of it.  A directory lists for
each region the indices of the connections that leave it; when a region is asked for, its
connections are looked up and kept for the next time.  The table of arcs holds one connection for
each ordered pair of regions that is connected, and of parallel connections the last.

A search follows the lists and the cost of a route is read off the arcs, so the views have to agree.
They do for every well-formed network: a directory answers with the connections that leave the
region, whatever it was asked before, and an arc stands for the last one in such a list that leads
to its target.  Connections may be parallel, lead back to where they start, or lead outside.
-/

namespace Egress

variable {α : Type}

/-- The connections of a network by region. -/
structure Directory (α : Type) where
  network : Network α
  /-- The indices of the connections that leave each region, in order. -/
  lists : Table Nat (List Nat)
  /-- The connections of the regions that were asked for. -/
  kept : Table Nat (List (Connection α))

namespace Directory

/-- Enter a connection in the list of the region that it leaves. -/
def enlist (lists : Table Nat (List Nat)) (connection : Connection α) :
    Except (Fault α) (Table Nat (List Nat)) :=
  match lists.find? connection.source with
  | some indices => .ok (lists.insert connection.source (indices ++ [connection.index]))
  | none => .error (.noSource connection.source)

def ofNetwork (network : Network α) : Except (Fault α) (Directory α) := do
  let blank := Table.ofList (network.regions.map fun region => (region.index, []))
  return ⟨network, ← network.connections.foldlM enlist blank, ∅⟩

/-- The connections that leave a region, which are kept from then on. -/
def ask (directory : Directory α) (reference : Int) :
    Except (Fault α) (List (Connection α) × Directory α) := do
  let index ← directory.network.indexOf reference
  match directory.kept.find? index with
  | some connections => return (connections, directory)
  | none =>
    match directory.lists.find? index with
    | none => throw (.noSource index)
    | some indices =>
      let connections ← indices.mapM fun position : Nat =>
        directory.network.connectionAt position
      return (connections, { directory with kept := directory.kept.insert index connections })

def answer (directory : Directory α) (reference : Int) :
    Except (Fault α) (List (Connection α)) :=
  (directory.ask reference).map Prod.fst

/-- Ask for one region after another, whether there is such a region or not. -/
def askAll (directory : Directory α) : List Int → Directory α
  | [] => directory
  | reference :: rest =>
    match directory.ask reference with
    | .ok (_, next) => next.askAll rest
    | .error _ => directory.askAll rest

/-- What a directory is that was made of a network and asked for some of its regions. -/
structure Faithful (network : Network α) (directory : Directory α) : Prop where
  network_eq : directory.network = network
  lists_eq : ∀ index < network.size,
    directory.lists.find? index = some ((network.leaving index).map Connection.index)
  kept_eq : ∀ index connections, directory.kept.find? index = some connections →
    connections = network.leaving index

variable {network : Network α} {directory next : Directory α} {connections : List (Connection α)}

/-! ## Making a directory -/

/-- Connections are added behind those that their regions have already. -/
theorem find?_enlist {lists after : Table Nat (List Nat)} {connection : Connection α}
    (enlisted : enlist lists connection = .ok after) (index : Nat) :
    after.find? index = (lists.find? index).map fun indices =>
      indices ++ ([connection].filter fun one => one.source == index).map Connection.index := by
  unfold enlist at enlisted
  split at enlisted
  · rename_i indices found
    cases enlisted
    rw [Table.find?_insert]
    by_cases same : connection.source = index
    · subst same
      rw [if_pos rfl, found]
      simp
    · rw [if_neg same]
      simp [same]
  · cases enlisted

theorem exists_foldlM_enlist {lists : Table Nat (List Nat)}
    (listed : ∀ connection ∈ connections, connection.source ∈ lists.keys) :
    ∃ after, (connections.foldlM enlist lists : Except (Fault α) _) = .ok after ∧
      ∀ index, after.find? index = (lists.find? index).map fun indices =>
        indices ++ (connections.filter fun one => one.source == index).map Connection.index := by
  induction connections generalizing lists with
  | nil =>
    refine ⟨lists, rfl, fun index => ?_⟩
    simp only [List.filter_nil, List.map_nil, List.append_nil, Option.map_id']
  | cons connection others hypothesis =>
    rcases Table.mem_keys_iff.mp (listed connection List.mem_cons_self) with ⟨indices, found⟩
    have enlisted : enlist lists connection =
        .ok (lists.insert connection.source (indices ++ [connection.index])) := by
      unfold enlist
      rw [found]
    -- No list is ever dropped, so the sources of the other connections still have theirs.
    rcases hypothesis fun other member => Table.mem_keys_insert.mpr
      (Or.inr (listed other (List.mem_cons_of_mem _ member))) with ⟨after, folded, isAfter⟩
    refine ⟨after, ?_, fun index => ?_⟩
    · rw [List.foldlM_cons, enlisted]
      exact folded
    · rw [isAfter, find?_enlist enlisted, Option.map_map]
      congr 1
      funext before
      rw [Function.comp_apply, List.append_assoc, ← List.map_append, ← List.filter_append,
        List.singleton_append]

/-- Every region has a list of its own, which is empty at first. -/
theorem find?_blank (formed : network.WellFormed) {index : Nat} (inside : index < network.size) :
    (Table.ofList (network.regions.map fun region => (region.index, ([] : List Nat)))).find? index =
      some [] := by
  have indices : ((network.regions.map fun region => (region.index, ([] : List Nat))).map
      Prod.fst).Nodup := by
    rw [List.map_map, List.nodup_iff_pairwise_ne, List.pairwise_map, List.pairwise_iff_getElem]
    intro first second firstInside secondInside less same
    have isFirst := formed.region_index (List.getElem?_eq_getElem firstInside)
    have isSecond := formed.region_index (List.getElem?_eq_getElem secondInside)
    exact less.ne (isFirst.symm.trans (same.trans isSecond))
  rw [Table.find?_eq_some_iff, Table.entries_ofList indices, List.mem_map]
  rcases formed.region_of_lt inside with ⟨region, found, isIndex, -⟩
  exact ⟨region, List.mem_of_getElem? found, by rw [isIndex]⟩

theorem exists_ofNetwork (formed : network.WellFormed) :
    ∃ directory, ofNetwork network = .ok directory ∧ directory.Faithful network := by
  rcases exists_foldlM_enlist fun connection member => Table.mem_keys_iff.mpr
    ⟨_, find?_blank formed (formed.source_lt connection member)⟩ with ⟨lists, folded, isListed⟩
  refine ⟨⟨network, lists, ∅⟩, ?_, rfl, ?_, ?_⟩
  · exact bind_eq_ok.mpr ⟨lists, folded, rfl⟩
  · intro index inside
    rw [isListed, find?_blank formed inside]
    rfl
  · intro index connections impossible
    cases impossible

/-! ## Asking -/

/-- The indices of the connections that leave a region lead back to the connections. -/
theorem mapM_connectionAt (formed : network.WellFormed) (index : Nat) :
    (((network.leaving index).map Connection.index).mapM fun position : Nat =>
      (network.connectionAt position : Except (Fault α) (Connection α))) =
        .ok (network.leaving index) := by
  rw [mapM_eq_ok_iff, List.forall₂_map_left_iff, List.forall₂_same]
  intro connection member
  exact Network.entryAt_of_lookup (formed.lookup_of_mem (Network.mem_leaving.mp member).1)

/-- A directory answers as its network does, and stays what it is. -/
theorem Faithful.ask (faithful : directory.Faithful network) (formed : network.WellFormed)
    (reference : Int) :
    directory.answer reference = network.outgoing reference ∧
      ∀ connections next, directory.ask reference = .ok (connections, next) →
        next.Faithful network := by
  unfold answer Directory.ask Network.outgoing
  rw [faithful.network_eq]
  cases isIndex : network.indexOf reference with
  | error fault =>
    refine ⟨rfl, ?_⟩
    intro connections next impossible
    cases impossible
  | ok index =>
    have inside := (Network.indexOf_eq_ok_iff.mp isIndex).2
    simp only [bind, Except.bind]
    cases isKept : directory.kept.find? index with
    | some connections =>
      rw [faithful.kept_eq index connections isKept]
      refine ⟨rfl, ?_⟩
      rintro _ _ ⟨⟩
      exact faithful
    | none =>
      simp only [faithful.lists_eq index inside, mapM_connectionAt formed index]
      refine ⟨rfl, ?_⟩
      rintro _ _ ⟨⟩
      refine ⟨rfl, faithful.lists_eq, ?_⟩
      intro other connections found
      rw [Table.find?_insert] at found
      split at found
      · rename_i same
        cases found
        rw [same]
      · exact faithful.kept_eq other connections found

theorem Faithful.askAll (faithful : directory.Faithful network) (formed : network.WellFormed)
    (references : List Int) : (directory.askAll references).Faithful network := by
  induction references generalizing directory with
  | nil => exact faithful
  | cons reference rest hypothesis =>
    rw [Directory.askAll]
    split
    · rename_i connections next asked
      exact hypothesis ((faithful.ask formed reference).2 connections next asked)
    · exact hypothesis faithful

end Directory

namespace Network

variable {network : Network α} {directory : Directory α} {source : Nat} {target : Int}

/-- Whether a connection leads to a region. -/
def leadsTo (target : Int) (connection : Connection α) : Bool :=
  connection.destination == some target

/-- The connections from one region to another, among those that leave the one. -/
theorem filter_leaving (network : Network α) (source : Nat) (target : Int) :
    (network.leaving source).filter (leadsTo target) =
      network.connections.filter (joins source target) := by
  rw [leaving, List.filter_filter]
  refine List.filter_congr fun connection _ => ?_
  rw [leadsTo, joins, Bool.and_comm]

/-- The connections that leave a region are listed in the order of their indices. -/
theorem WellFormed.leaving_ascending (formed : network.WellFormed) (index : Nat) :
    (network.leaving index).Pairwise fun earlier later => earlier.index < later.index := by
  have ascending := List.pairwise_lt_range (n := network.connections.length)
  rw [← formed.indices_eq_range, List.pairwise_map] at ascending
  exact ascending.filter _

/-- There is an arc for each pair of regions that a connection joins, and for no other. -/
theorem WellFormed.mem_arcs_iff (formed : network.WellFormed) :
    (source, target) ∈ network.arcs.keys ↔ ∃ connection ∈ network.connections,
      connection.source = source ∧ connection.destination = some target := by
  rw [← not_iff_not, ← Table.find?_eq_none_iff, formed.find?_arcs, Option.map_eq_none_iff,
    List.getLast?_eq_none_iff, List.filter_eq_nil_iff]
  simp only [joins, Bool.and_eq_true, beq_iff_eq, not_exists, not_and]

/-- A directory, the arcs and the connections of a network say the same. -/
structure Agrees (network : Network α) (directory : Directory α) : Prop where
  answer_eq : ∀ reference, directory.answer reference = network.outgoing reference
  /-- Every region has a list of connections, in the order of their indices. -/
  listed : ∀ index < network.size, ∃ leaving, directory.answer index = .ok leaving ∧
    leaving ⊆ network.connections ∧
    leaving.Pairwise fun earlier later => earlier.index < later.index
  /-- A connection stands in the list of the region that it leaves, and in no other. -/
  once : ∀ connection ∈ network.connections, ∀ reference,
    (∃ leaving, directory.answer reference = .ok leaving ∧ connection ∈ leaving) ↔
      reference = connection.source
  /-- Between two regions the last connection in the list of the one is found that leads to the
  other. -/
  between : ∀ source < network.size, ∀ target < network.size, ∀ leaving,
    directory.answer source = .ok leaving →
      network.connectionBetween source target = .ok (leaving.filter (leadsTo target)).getLast?
  /-- No connection is found exactly if none in the list leads to the other region. -/
  between_none_iff : ∀ source < network.size, ∀ target < network.size, ∀ leaving,
    directory.answer source = .ok leaving →
      (network.connectionBetween source target = .ok none ↔
        ∀ connection ∈ leaving, connection.destination ≠ some ↑target)
  arcs_iff : ∀ source target, (source, target) ∈ network.arcs.keys ↔
    ∃ connection ∈ network.connections,
      connection.source = source ∧ connection.destination = some target

/-- A directory that is faithful to a network agrees with it. -/
theorem agrees_of_faithful (formed : network.WellFormed)
    (faithful : directory.Faithful network) : network.Agrees directory := by
  have answers : ∀ reference, directory.answer reference = network.outgoing reference :=
    fun reference => (faithful.ask formed reference).1
  have between : ∀ source < network.size, ∀ target < network.size, ∀ leaving,
      directory.answer source = .ok leaving →
        network.connectionBetween source target =
          .ok (leaving.filter (leadsTo target)).getLast? := by
    intro source isSource target isTarget leaving answered
    rw [answers, outgoing_of_lt isSource] at answered
    cases answered
    rw [formed.connectionBetween_eq isSource isTarget, filter_leaving]
  refine ⟨answers, ?_, ?_, between, ?_, fun source target => formed.mem_arcs_iff⟩
  · intro index inside
    refine ⟨network.leaving index, ?_, List.filter_subset_self _, formed.leaving_ascending index⟩
    rw [answers, outgoing_of_lt inside]
  · intro connection member reference
    constructor
    · rintro ⟨leaving, answered, isListed⟩
      rw [answers] at answered
      rcases bind_eq_ok.mp answered with ⟨index, isIndex, same⟩
      cases same
      rw [(indexOf_eq_ok_iff.mp isIndex).1, (mem_leaving.mp isListed).2]
    · rintro rfl
      refine ⟨network.leaving connection.source, ?_, mem_leaving.mpr ⟨member, rfl⟩⟩
      rw [answers, outgoing_of_lt (formed.source_lt connection member)]
  · intro source isSource target isTarget leaving answered
    rw [between source isSource target isTarget leaving answered, Except.ok.injEq,
      List.getLast?_eq_none_iff, List.filter_eq_nil_iff]
    simp only [leadsTo, beq_iff_eq, ne_eq]

/-- Every well-formed network has a directory, and whatever that was asked before, it agrees with
the network and its arcs. -/
theorem topology_agrees (formed : network.WellFormed) (asked : List Int) :
    ∃ directory, Directory.ofNetwork network = .ok directory ∧
      network.Agrees (directory.askAll asked) := by
  rcases Directory.exists_ofNetwork formed with ⟨directory, made, faithful⟩
  exact ⟨directory, made, agrees_of_faithful formed (faithful.askAll formed asked)⟩

/-- In the tangle, after questions about regions that there are and that there are not. -/
theorem topology_agrees_in_tangle :
    Awareness.tangle.WellFormed ∧
      ∃ directory, Directory.ofNetwork Awareness.tangle = .ok directory ∧
        Awareness.tangle.Agrees (directory.askAll Awareness.tangleCalls) :=
  ⟨Awareness.tangle_formed, topology_agrees Awareness.tangle_formed Awareness.tangleCalls⟩

/-- Of the two connections from the first region of the tangle to the second, the last is found. -/
example : (Awareness.tangle.connectionBetween 0 1).toOption.map (Option.map Connection.index) =
    some (some 2) := by
  decide +kernel

end Network

end Egress
