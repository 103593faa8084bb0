import Egress.Fault
import Egress.Table

/-!
# The network of regions and connections

Regions are the walkable parts of a building and connections are the ways out of them.  Both are
numbered by position.  A connection without a destination leads out of the modelled space.  A
destination is whatever number it was declared with, and only where it is followed does it show
whether there is such a region.

The connections leaving a region are listed in ascending order of their index.  Besides, the
network keeps the index of the last connection for each ordered pair of regions, by which a
connection is found from its two ends: of parallel connections the last one stands for the pair.
-/

namespace Egress

/-- A part of the building as the network sees it. -/
structure Place (α : Type) where
  id : String
  category : String
  centre : Point α
  area : α
  floor : Int
  deriving Repr, Inhabited

/-- A place with its number. -/
structure Region (α : Type) extends Place α where
  index : Nat
  deriving Repr, Inhabited

/-- A way out of a region. -/
structure Passage (α : Type) where
  destination : Option Int
  /-- What walking through costs before any factor, in metres; nothing if that is beyond all
  numbers. -/
  baseCost : Option α
  /-- Where the boundary is crossed. -/
  crossing : Point α
  deriving Repr, Inhabited

/-- A passage with its number and the region it leaves. -/
structure Connection (α : Type) extends Passage α where
  index : Nat
  source : Nat
  deriving Repr, Inhabited

/-- A connection that leads out of the modelled space. -/
def Connection.isDead {α : Type} (connection : Connection α) : Bool :=
  connection.destination.isNone

structure Network (α : Type) where
  regions : List (Region α)
  connections : List (Connection α)
  /-- The last connection of each ordered pair of regions that has one. -/
  arcs : Table (Nat × Int) Nat
  deriving Inhabited

namespace Network

variable {α : Type}

/-- Enter a connection under its pair of ends. -/
def addArc (arcs : Table (Nat × Int) Nat) (connection : Connection α) : Table (Nat × Int) Nat :=
  match connection.destination with
  | some destination => arcs.insert (connection.source, destination) connection.index
  | none => arcs

/-- The network of numbered regions and connections. -/
def ofLists (regions : List (Region α)) (connections : List (Connection α)) : Network α :=
  ⟨regions, connections, connections.foldl addArc ∅⟩

def number (places : List (Place α)) : List (Region α) :=
  places.zipIdx.map fun (place, index) => { place with index }

/-- Number the passages of a network of `size` regions, refusing one that leaves no region. -/
def numberPassages (size : Nat) :
    Nat → List (Int × Passage α) → Except (Fault α) (List (Connection α))
  | _, [] => .ok []
  | index, (source, passage) :: rest =>
    if 0 ≤ source ∧ source < size then do
      let others ← numberPassages size (index + 1) rest
      return { passage with index, source := source.toNat } :: others
    else .error (.noSource source)

/-- The network of places and passages, numbered by position.  Destinations are not checked. -/
def ofPlaces (places : List (Place α)) (passages : List (Int × Passage α)) :
    Except (Fault α) (Network α) := do
  return ofLists (number places) (← numberPassages places.length 0 passages)

def size (network : Network α) : Nat := network.regions.length

/-- A reference as a region index. -/
def indexOf (network : Network α) (reference : Int) : Except (Fault α) Nat :=
  if 0 ≤ reference ∧ reference < network.size then .ok reference.toNat
  else .error (.noRegionIndex reference)

/-- The region with an index that is known to be sound. -/
def region (network : Network α) (index : Nat) : Except (Fault α) (Region α) :=
  match network.regions[index]? with
  | some region => .ok region
  | none => .error .outOfRange

/-- An entry of a list by position, counted from the end if negative. -/
def entryAt {β : Type} (entries : List β) (position : Int) : Except (Fault α) β :=
  let offset := if position < 0 then position + entries.length else position
  if offset < 0 then .error .outOfRange
  else
    match entries[offset.toNat]? with
    | some entry => .ok entry
    | none => .error .outOfRange

def regionAt (network : Network α) (position : Int) : Except (Fault α) (Region α) :=
  entryAt network.regions position

def connectionAt (network : Network α) (position : Int) : Except (Fault α) (Connection α) :=
  entryAt network.connections position

/-- The region with an id; of two regions with one id, the later. -/
def findRegion? (network : Network α) (id : String) : Option (Region α) :=
  network.regions.reverse.find? fun region => region.id == id

def regionNamed (network : Network α) (id : String) : Except (Fault α) (Region α) :=
  match network.findRegion? id with
  | some region => .ok region
  | none => .error (.noRegionNamed id)

/-- The connections leaving a region, in ascending order. -/
def leaving (network : Network α) (index : Nat) : List (Connection α) :=
  network.connections.filter fun connection => connection.source == index

/-- The connections leaving the region that a reference names. -/
def outgoing (network : Network α) (reference : Int) : Except (Fault α) (List (Connection α)) := do
  return network.leaving (← network.indexOf reference)

/-- The last connection from one region to another, if there is one. -/
def connectionBetween (network : Network α) (source target : Int) :
    Except (Fault α) (Option (Connection α)) := do
  let source ← network.indexOf source
  let target ← network.indexOf target
  match network.arcs.find? (source, (target : Int)) with
  | none => return none
  | some index => return some (← network.connectionAt index)

end Network

end Egress
