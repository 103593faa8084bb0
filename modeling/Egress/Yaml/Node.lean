import Egress.Table
import Egress.Yaml.Form
import Egress.Yaml.Token

/-!
# From tokens to nodes

A text holds at most one document, and a document is one node: a scalar, a sequence or a mapping,
with its tag.  An alias stands for the node that its anchor names.  A node left out is an empty
plain scalar.

Nodes are numbered and refer to each other by their numbers, since one node may be part of several
others: of a node that is not complete yet, too, so that a node may hold itself.  The tag of a plain
scalar without a tag of its own is told from the way it is written; any other scalar without a tag
is a text.
-/

namespace Egress.Yaml

/-- The common beginning of the tags of the standard. -/
def standardLead : String := "tag:yaml.org,2002:"

/-- What a node holds; the nodes in it are given by their numbers. -/
inductive Shape where
  | scalar (text : String)
  | sequence (items : List Nat)
  | mapping (entries : List (Nat × Nat))
  deriving Repr, DecidableEq, Inhabited

structure Node where
  tag : String
  shape : Shape
  deriving Repr, DecidableEq, Inhabited

/-- All nodes of a document by their numbers. -/
structure Graph where
  nodes : Array Node
  /-- The numbers of the nodes in the order in which they were completed, the latest first. -/
  completed : List Nat
  root : Nat
  deriving Inhabited

/-- The tag that a form stands for. -/
def Form.tag (form : Form) : String :=
  standardLead ++
    match form with
    | null => "null"
    | bool => "bool"
    | int => "int"
    | float => "float"
    | date => "timestamp"
    | merge => "merge"
    | preset => "value"
    | indicator => "yaml"
    | text => "str"

structure Reader where
  tokens : List Token
  nodes : Array Node
  completed : List Nat
  /-- The nodes that anchors name. -/
  anchors : Table String Nat
  /-- What the handles of tags stand for. -/
  handles : Table String String
  /-- How many nodes are being read, each inside the one before. -/
  level : Nat
  deriving Inhabited

abbrev Reading := StateT Reader Scan

namespace Reader

def refuse {β : Type} : Reading β := throw .malformed

/-- The next token.  A flaw ends the reading. -/
def peek : Reading Token := do
  match (← get).tokens.headD .finish with
  | .broken flaw => throw flaw
  | token => return token

def drop : Reading Unit := modify fun reader => { reader with tokens := reader.tokens.tail }

/-- Read a token if it is the expected one. -/
def accept (token : Token) : Reading Bool := do
  if (← peek) == token then
    drop
    return true
  else return false

def expect (token : Token) : Reading Unit := do
  if !(← accept token) then refuse

def next (tokens : List Token) : Reading Bool := do return tokens.contains (← peek)

/-- The whole tag of a handle and a suffix. -/
def wholeTag (handle : Option String) (suffix : String) : Reading String := do
  match handle with
  | none => return suffix
  | some handle =>
    match (← get).handles.find? handle with
    | some lead => return lead ++ suffix
    | none => refuse

def anchor? : Reading (Option String) := do
  match ← peek with
  | .anchor name =>
    drop
    return some name
  | _ => return none

def tag? : Reading (Option String) := do
  match ← peek with
  | .tag handle suffix =>
    drop
    return some (← wholeTag handle suffix)
  | _ => return none

/-- What stands in front of a node. -/
structure Properties where
  anchor : Option String
  tag : Option String

/-- An anchor and a tag, in either order. -/
def properties : Reading Properties := do
  match ← anchor? with
  | some name => return ⟨some name, ← tag?⟩
  | none =>
    let tag ← tag?
    return ⟨← anchor?, tag⟩

/-- The tag of a collection with a usual one. -/
def collectionTag (usual : String) : Option String → String
  | none | some "!" => standardLead ++ usual
  | some tag => tag

def scalarTag (plain : Bool) (text : String) : Option String → String
  | none => if plain then (Form.of text).tag else Form.text.tag
  | some "!" => (Form.of text).tag
  | some tag => tag

/-- Begin a node, and let its anchor name it. -/
def begin (anchor : Option String) (node : Node) : Reading Nat := do
  let number := (← get).nodes.size
  modify fun reader => { reader with
    nodes := reader.nodes.push node
    anchors := anchor.elim reader.anchors fun name => reader.anchors.insert name number }
  return number

/-- Complete a node. -/
def complete (number : Nat) (node : Node) : Reading Nat := do
  modify fun reader => { reader with
    nodes := reader.nodes.setIfInBounds number node
    completed := number :: reader.completed }
  return number

def scalar (given : Properties) (plain : Bool) (text : String) : Reading Nat := do
  let node := ⟨scalarTag plain text given.tag, .scalar text⟩
  complete (← begin given.anchor node) node

/-- A scalar that is left out. -/
def blank : Reading Nat := scalar ⟨none, none⟩ true ""

/-- Nodes may be this many levels deep. -/
def deepest : Nat := 488

def enter : Reading Unit := do
  modify fun reader => { reader with level := reader.level + 1 }
  if deepest < (← get).level then throw .tooDeep

def leave : Reading Unit := modify fun reader => { reader with level := reader.level - 1 }

/-- Where a node stands: it says which collections may begin there. -/
inductive Place where
  | block
  /-- In a block mapping, whose sequences need no indentation of their own. -/
  | entry
  | flow
  deriving DecidableEq

/-- A sequence with the items that are read. -/
def sequence (given : Properties) (items : Reading (List Nat)) : Reading Nat := do
  let tag := collectionTag "seq" given.tag
  let number ← begin given.anchor ⟨tag, .sequence []⟩
  complete number ⟨tag, .sequence (← items)⟩

/-- A mapping with the entries that are read. -/
def mapping (given : Properties) (entries : Reading (List (Nat × Nat))) : Reading Nat := do
  let tag := collectionTag "map" given.tag
  let number ← begin given.anchor ⟨tag, .mapping []⟩
  complete number ⟨tag, .mapping (← entries)⟩

mutual

/-- A node.  The bound on the depth of calls exceeds the number of tokens left. -/
def node (depth : Nat) (place : Place) : Reading Nat :=
  match depth with
  | 0 => refuse
  | depth + 1 => do
    if let .alias name ← peek then
      drop
      match (← get).anchors.find? name with
      | some number => return number
      | none => refuse
    let given ← properties
    let reader ← get
    if given.anchor.any reader.anchors.contains then refuse
    enter
    let number ← content depth place given
    leave
    return number

/-- A node behind its properties; it may be left out if there are some. -/
def content (depth : Nat) (place : Place) (given : Properties) : Reading Nat :=
  match depth with
  | 0 => refuse
  | depth + 1 => do
    match ← peek with
    | .scalar text plain =>
      drop
      scalar given plain text
    | .flowSequence =>
      drop
      sequence given (flowItems depth true)
    | .flowMapping =>
      drop
      mapping given (flowEntries depth true)
    | token =>
      if token == .blockEntry && place == .entry then sequence given (bareItems depth)
      else if token == .blockSequence && place != .flow then
        drop
        sequence given (blockItems depth)
      else if token == .blockMapping && place != .flow then
        drop
        mapping given (blockEntries depth)
      else if given.anchor.isSome || given.tag.isSome then scalar given true ""
      else refuse

/-- A node, or a blank one before one of the given tokens. -/
def nodeUnless (depth : Nat) (place : Place) (ends : List Token) : Reading Nat :=
  match depth with
  | 0 => refuse
  | depth + 1 => do
    if ← next ends then blank else node depth place

/-- The items of a block sequence, to its end. -/
def blockItems (depth : Nat) : Reading (List Nat) :=
  match depth with
  | 0 => refuse
  | depth + 1 => do
    if ← accept .blockEntry then
      let item ← nodeUnless depth .block [.blockEntry, .blockEnd]
      return item :: (← blockItems depth)
    expect .blockEnd
    return []

/-- The items of a sequence without indentation of its own. -/
def bareItems (depth : Nat) : Reading (List Nat) :=
  match depth with
  | 0 => refuse
  | depth + 1 => do
    if ← accept .blockEntry then
      let item ← nodeUnless depth .block [.blockEntry, .key, .value, .blockEnd]
      return item :: (← bareItems depth)
    return []

/-- The value of an entry, if there is one. -/
def entryValue (depth : Nat) (place : Place) (ends : List Token) : Reading Nat :=
  match depth with
  | 0 => refuse
  | depth + 1 => do
    if ← accept .value then nodeUnless depth place ends else blank

/-- The entries of a block mapping, to its end. -/
def blockEntries (depth : Nat) : Reading (List (Nat × Nat)) :=
  match depth with
  | 0 => refuse
  | depth + 1 => do
    let ends := [Token.key, .value, .blockEnd]
    if ← accept .key then
      let key ← nodeUnless depth .entry ends
      let value ← entryValue depth .entry ends
      return (key, value) :: (← blockEntries depth)
    expect .blockEnd
    return []

/-- The items of a flow sequence, to its end.  An item may be a mapping of a single entry. -/
def flowItems (depth : Nat) (first : Bool) : Reading (List Nat) :=
  match depth with
  | 0 => refuse
  | depth + 1 => do
    if ← accept .flowSequenceEnd then return []
    if !first then expect .flowEntry
    if ← accept .key then
      let item ← single depth
      return item :: (← flowItems depth false)
    if ← accept .flowSequenceEnd then return []
    let item ← node depth .flow
    return item :: (← flowItems depth false)

/-- A mapping of a single entry, behind its key token. -/
def single (depth : Nat) : Reading Nat :=
  match depth with
  | 0 => refuse
  | depth + 1 => do
    enter
    let number ← mapping ⟨none, none⟩ do
      let key ← nodeUnless depth .flow [.value, .flowEntry, .flowSequenceEnd]
      return [(key, ← entryValue depth .flow [.flowEntry, .flowSequenceEnd])]
    leave
    return number

/-- The entries of a flow mapping, to its end.  A key may stand alone. -/
def flowEntries (depth : Nat) (first : Bool) : Reading (List (Nat × Nat)) :=
  match depth with
  | 0 => refuse
  | depth + 1 => do
    if ← accept .flowMappingEnd then return []
    if !first then expect .flowEntry
    if ← accept .key then
      let key ← nodeUnless depth .flow [.value, .flowEntry, .flowMappingEnd]
      let value ← entryValue depth .flow [.flowEntry, .flowMappingEnd]
      return (key, value) :: (← flowEntries depth false)
    if ← accept .flowMappingEnd then return []
    let key ← node depth .flow
    let value ← blank
    return (key, value) :: (← flowEntries depth false)

end

/-- The handles that need no directive. -/
def usualHandles : Table String String := Table.ofList [("!", "!"), ("!!", standardLead)]

/-- Directives in front of a document: one version at most, of the first generation, and one meaning
for each handle. -/
def directives (turns : Nat) (versioned : Bool) (handles : Table String String) :
    Reading (Table String String) :=
  match turns with
  | 0 => refuse
  | turns + 1 => do
    match ← peek with
    | .version major =>
      if versioned || major != 1 then refuse
      drop
      directives turns true handles
    | .tagShorthand handle lead =>
      if handles.contains handle then refuse
      drop
      directives turns versioned (handles.insert handle lead)
    | .otherDirective =>
      drop
      directives turns versioned handles
    | _ => return handles

/-- Past marks that end a document. -/
def skipEnds (turns : Nat) : Reading Unit :=
  match turns with
  | 0 => return
  | turns + 1 => do
    if ← accept .documentEnd then skipEnds turns

/-- Whether a directive comes next. -/
def atDirective : Reading Bool := do
  match ← peek with
  | .version _ | .tagShorthand _ _ | .otherDirective => return true
  | _ => return false

/-- The number of the outermost node of the only document, if there is one. -/
def document (length : Nat) : Reading (Option Nat) := do
  let depth := 8 * length + 8
  if ← next [.finish] then return none
  let explicit := (← atDirective) || (← next [.documentStart])
  let root ←
    if explicit then do
      let handles ← directives (length + 1) false ∅
      expect .documentStart
      modify fun reader => { reader with
        handles := handles.entries.foldl (fun all (handle, lead) => all.insert handle lead)
          usualHandles }
      if (← atDirective) || (← next [.documentStart, .documentEnd, .finish]) then blank
      else node depth .block
    else node depth .block
  skipEnds length
  if ← next [.finish] then return some root
  refuse

end Reader

/-- The nodes that the tokens of a text describe; none if the text holds no document. -/
def Graph.ofTokens (tokens : List Token) : Scan (Option Graph) := do
  let (root, reader) ←
    (Reader.document tokens.length).run ⟨tokens, #[], [], ∅, Reader.usualHandles, 0⟩
  return root.map fun root => ⟨reader.nodes, reader.completed, root⟩

end Egress.Yaml
