import Egress.Fault
import Egress.Unicode.Lower
import Egress.Yaml.Binary
import Egress.Yaml.Lexer
import Egress.Yaml.Node

/-!
# From nodes to values

Every node becomes a value by its tag.  A mapping first takes over the entries of the mappings under
its merge keys; entries of its own come after them and win.  A node with a tag that is not
understood, or with one that does not suit its kind, makes the whole text malformed.

Collections are begun where they are met and filled later, in the order in which they were begun:
first all nodes of a collection, then those of the collections in it.  So a flaw near the top of a
document is found before one further down, and a collection may hold itself.  A merge changes the
mapping for everything that refers to it, and so does the use of the mark of a default value as a
key, which makes a text of it.
-/

namespace Egress.Yaml

namespace Content

/-- The value of a node: a plain one, or the collection that the node stands for. -/
inductive Piece where
  | value (value : Value Float)
  | collection (number : Nat)
  deriving Inhabited

/-- What a collection holds. -/
inductive Filling where
  | items (pieces : List Piece)
  /-- Pairs in order. -/
  | pairs (pieces : List (Piece × Piece))
  | entries (pieces : List (Value Float × Piece))
  /-- Each value once. -/
  | members (values : List (Value Float))
  deriving Inhabited

/-- Values in progress. -/
structure Work where
  nodes : Array Node
  /-- The values of nodes already met, by their numbers. -/
  pieces : Array (Option Piece)
  fillings : Array (Option Filling)
  /-- Collections in the order in which they were begun. -/
  begun : Array Nat

abbrev Working := StateT Work (Except (Fault Float))

def malformed {β : Type} : Working β := throw .malformedText

/-! ## Scalars -/

def withoutGaps (text : String) : List Char := text.toList.filter (· != '_')

/-- An integer in a base, with the fault if it is none. -/
def integerIn (base : Nat) (digits : List Char) : Except (Fault Float) Int :=
  match Number.readInteger base digits with
  | .ok value => .ok value
  | .error .malformed => .error (.notInteger base (String.ofList digits))
  | .error (.tooLong count) => .error (.numeralTooLong count)

def integerOf (text : String) : Except (Fault Float) Int := do
  let chars := withoutGaps text
  let (negative, bare) := Number.unsigned chars
  let magnitude ← match bare with
    | [] => throw .outOfRange
    | '0' :: 'b' :: digits => integerIn 2 digits
    | '0' :: 'x' :: digits => integerIn 16 digits
    | '0' :: _ => integerIn 8 bare
    | _ =>
      if bare.contains ':' then do
        let parts ← (Form.split ':' bare).mapM (integerIn 10)
        pure (parts.foldl (fun sum part => 60 * sum + part) 0)
      else integerIn 10 bare
  return if negative then -magnitude else magnitude

/-- The sum of parts, the last one in units and each before it in sixties of those of the next. -/
def sixties : List Float → Float → Int → Except (Fault Float) Float
  | [], sum, _ => .ok sum
  | part :: rest, sum, unit =>
    if Scalar.holds Float unit then sixties rest (sum + part * Float.ofInt unit) (unit * 60)
    else .error .tooLarge

def realOf (text : String) : Except (Fault Float) Float := do
  let chars := (Unicode.lower (String.ofList (withoutGaps text))).toList
  let (negative, bare) := Number.unsigned chars
  let part (digits : List Char) : Except (Fault Float) Float :=
    match Number.readReal digits with
    | some value => .ok value
    | none => .error (.notReal (String.ofList digits))
  if chars.isEmpty then throw .outOfRange
  if bare == ".nan".toList then return 0.0 / 0.0
  let magnitude ←
    if bare == ".inf".toList then pure (1.0 / 0.0)
    else if bare.contains ':' then do
      sixties (← (Form.split ':' bare).mapM part).reverse 0 1
    else part bare
  return if negative then -magnitude else magnitude

def momentOf (text : String) : Except (Fault Float) Moment :=
  match Form.moment? 1 (Form.unended text.toList) with
  | none => .error .notMoment
  | some moment =>
    match moment.flaw? with
    | some flaw => .error (.badMoment flaw)
    | none => .ok moment

/-- The text that a node gives as a scalar.  A mapping gives that of its default value. -/
def scalarText (turns : Nat) (number : Nat) : Working String :=
  match turns with
  | 0 => throw .tooDeep
  | turns + 1 => do
    let nodes := (← get).nodes
    match (nodes.getD number default).shape with
    | .scalar text => return text
    | .sequence _ => malformed
    | .mapping entries =>
      match entries.find? fun entry => (nodes.getD entry.1 default).tag == Form.preset.tag with
      | some (_, value) => scalarText turns value
      | none => malformed

/-- The part of a tag behind the common beginning, if it has that. -/
def standard? (tag : String) : Option String :=
  if standardLead.toList.isPrefixOf tag.toList then
    some (String.ofList (tag.toList.drop standardLead.length))
  else none

/-- The value of a scalar with a standard tag. -/
def scalarOf (kind text : String) : Except (Fault Float) (Value Float) :=
  match kind with
  | "null" => .ok .null
  | "bool" =>
    let word := Unicode.lower text
    match Form.truths.lookup word with
    | some value => .ok (.bool value)
    | none => .error (.notTruth word)
  | "int" => return .int (← integerOf text)
  | "float" => return .real (← realOf text)
  | "binary" =>
    match Binary.decode text with
    | some bytes => .ok (.bytes bytes)
    | none => .error .malformedText
  | "timestamp" => return .moment (← momentOf text)
  | "str" => .ok (.text text)
  | _ => .error .malformedText

/-! ## Taking over entries -/

def entriesOf (number : Nat) : Working (List (Nat × Nat)) := do
  match ((← get).nodes.getD number default).shape with
  | .mapping entries => return entries
  | _ => malformed

def setEntries (number : Nat) (entries : List (Nat × Nat)) : Working Unit :=
  modify fun work => { work with
    nodes := work.nodes.modify number fun node => { node with shape := .mapping entries } }

def hasTag (nodes : Array Node) (tag : String) (entry : Nat × Nat) : Bool :=
  (nodes.getD entry.1 default).tag == tag

/-- Make a text of the mark of a default value. -/
def retag (entry : Nat × Nat) : Working Unit :=
  modify fun work => { work with
    nodes := work.nodes.modify entry.1 fun node =>
      if node.tag == Form.preset.tag then { node with tag := Form.text.tag } else node }

mutual

/-- Replace the merge keys of a mapping from a place on by what they bring; `taken` was brought by
those before.  Every turn takes a merge key away, so there are no more turns than keys. -/
def merge (turns : Nat) (number place : Nat) (taken : List (Nat × Nat)) : Working Unit :=
  match turns with
  | 0 => throw .tooDeep
  | turns + 1 => do
    let entries ← entriesOf number
    let nodes := (← get).nodes
    let passed := (entries.drop place).takeWhile fun entry => !hasTag nodes Form.merge.tag entry
    passed.forM retag
    let place := place + passed.length
    match entries[place]? with
    | none => if !taken.isEmpty then setEntries number (taken ++ entries)
    | some (_, source) =>
      setEntries number (entries.eraseIdx place)
      let more ← takeOver turns source
      merge turns number place (taken ++ more)

/-- The entries that a merge key brings.  Of several mappings the first wins, so it comes last. -/
def takeOver (turns : Nat) (number : Nat) : Working (List (Nat × Nat)) :=
  match turns with
  | 0 => throw .tooDeep
  | turns + 1 => do
    match ((← get).nodes.getD number default).shape with
    | .mapping _ =>
      merge turns number 0 []
      entriesOf number
    | .sequence items =>
      let groups ← items.mapM fun item => do
        let _ ← entriesOf item
        merge turns item 0 []
        entriesOf item
      return groups.reverse.flatten
    | .scalar _ => malformed

end

/-! ## Filling collections -/

/-- The value of a node, begun if it is a collection that was not met before. -/
def piece (number : Nat) : Working Piece := do
  let work ← get
  if let some piece := work.pieces.getD number none then return piece
  let tag := (work.nodes.getD number default).tag
  let piece ← match standard? tag with
    | some "seq" | some "map" | some "set" | some "omap" | some "pairs" => do
      modify fun work => { work with begun := work.begun.push number }
      pure (Piece.collection number)
    | some kind =>
      if ["null", "bool", "int", "float", "binary", "timestamp", "str"].contains kind then do
        let text ← scalarText (work.nodes.size + 1) number
        -- The text of a moment has to be that of the node itself.
        if let .mapping _ := (work.nodes.getD number default).shape then
          if kind == "timestamp" then throw .wrongType
        match scalarOf kind text with
        | .ok value => pure (Piece.value value)
        | .error fault => throw fault
      else malformed
    | none => malformed
  modify fun work => { work with pieces := work.pieces.setIfInBounds number (some piece) }
  return piece

/-- The entries of a mapping; of entries with one key the last wins, in the place of the first. -/
def entryPieces (number : Nat) : Working (List (Value Float × Piece)) := do
  let _ ← entriesOf number
  merge (2 * (← entryCount) + 4) number 0 []
  (← entriesOf number).foldlM (fun all (key, value) => do
    match ← piece key with
    | .collection _ => malformed
    | .value key => return Value.put all key (← piece value)) []
where
  /-- How many entries there are in all mappings. -/
  entryCount : Working Nat := do
    return (← get).nodes.foldl (fun count node =>
      match node.shape with
      | .mapping entries => count + entries.length
      | _ => count) 0

def itemsOf (number : Nat) : Working (List Nat) := do
  match ((← get).nodes.getD number default).shape with
  | .sequence items => return items
  | _ => malformed

/-- The only entry of a mapping. -/
def pairPieces (number : Nat) : Working (Piece × Piece) := do
  match ← entriesOf number with
  | [(key, value)] => return (← piece key, ← piece value)
  | _ => malformed

/-- Fill a collection that was begun. -/
def fill (number : Nat) : Working Unit := do
  let filling ← match standard? ((← get).nodes.getD number default).tag with
    | some "seq" => pure (.items (← (← itemsOf number).mapM piece))
    | some "map" => pure (.entries (← entryPieces number))
    | some "set" => pure (.members ((← entryPieces number).map Prod.fst))
    | _ => pure (.pairs (← (← itemsOf number).mapM pairPieces))
  modify fun work => { work with
    fillings := work.fillings.setIfInBounds number (some filling) }

/-- Fill all collections from a place on, also those that are begun on the way. -/
def fillFrom (turns : Nat) (place : Nat) : Working Unit :=
  match turns with
  | 0 => return
  | turns + 1 => do
    match (← get).begun[place]? with
    | none => return
    | some number =>
      fill number
      fillFrom turns (place + 1)

/-! ## Collections as values -/

/-- The value of a piece, given those of the collections. -/
def Piece.settle (values : Array (Value Float)) : Piece → Value Float
  | .value plain => plain
  | .collection number => values.getD number .endless

def Filling.settle (values : Array (Value Float)) : Filling → Value Float
  | .items pieces => .list (pieces.map (·.settle values))
  | .pairs pieces =>
    .list (pieces.map fun (first, second) => .list [first.settle values, second.settle values])
  | .entries pieces => .mapping (pieces.map fun (key, piece) => (key, piece.settle values))
  | .members keys => .list keys

/-- Settle every collection once, in the order in which their nodes were completed.  A node is
completed after the nodes in it unless it holds itself, so one round settles all others. -/
def round (fillings : Array (Option Filling)) (order : List Nat) (values : Array (Value Float)) :
    Array (Value Float) :=
  order.foldl (fun values number =>
    match fillings.getD number none with
    | some filling => values.setIfInBounds number (filling.settle values)
    | none => values) values

/-- The value of the outermost node.  What holds itself is followed down some levels, further than
any use of settings looks. -/
def ofGraph (graph : Graph) : Except (Fault Float) (Value Float) := do
  let size := graph.nodes.size
  let empty : Work :=
    ⟨graph.nodes, Array.replicate size none, Array.replicate size none, #[]⟩
  let (root, work) ← (do
    let root ← piece graph.root
    fillFrom (size + 1) 0
    return root : Working Piece).run empty
  let order := graph.completed.reverse
  let values := (List.range 3).foldl (fun values _ => round work.fillings order values)
    (Array.replicate size .endless)
  return root.settle values

end Content

/-- The fault of a text that cannot be read. -/
def TextFlaw.fault : TextFlaw → Fault Float
  | malformed => .malformedText
  | noSuchCharacter => .noSuchCharacter
  | numberTooLarge => .tooLarge
  | tooDeep => .tooDeep

/-- The value that a YAML text describes; a text without a document describes nothing. -/
def read (text : String) : Except (Fault Float) (Value Float) :=
  match Graph.ofTokens (tokens text) with
  | .error flaw => .error flaw.fault
  | .ok none => .ok .null
  | .ok (some graph) => Content.ofGraph graph

end Egress.Yaml
