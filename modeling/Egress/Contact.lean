import Egress.Segment

/-!
# Contacts between chains

Two chains of segments are cut wherever they meet each other or themselves.  Afterwards they touch
along those pieces that both of them have.

A cut in the middle of two segments is rounded, and what it leaves of them may meet something else
or each other once more.  Then the chains are cut anew, this time with points that nearly coincide
drawn together, and with cuts also where the end of one segment nearly lies on another.
-/

namespace Egress.Contact

/-- A segment of one of two chains, with its number in the chain. -/
structure Step where
  ofSecond : Bool
  number : Nat
  segment : Segment
  deriving Inhabited

/-- A place on a step at which its chain is to be cut. -/
structure Cut where
  ofSecond : Bool
  number : Nat
  place : Point Float
  deriving Inhabited

/-- A point between two pieces of a chain, at which the chain is cut or not. -/
structure Joint where
  place : Point Float
  isCut : Bool
  deriving Inhabited

/-- What lies between two joints. -/
structure Piece where
  ofSecond : Bool
  number : Nat
  opening : Joint
  closing : Joint
  deriving Inhabited

/-- Leave out points that repeat the one before. -/
def dropRepeats : List (Point Float) → List (Point Float)
  | point :: next :: rest =>
    if point.coincides next then dropRepeats (point :: rest)
    else point :: dropRepeats (next :: rest)
  | points => points
termination_by points => points.length

def stepsFrom (ofSecond : Bool) (number : Nat) : List (Point Float) → List Step
  | start :: stop :: rest =>
    ⟨ofSecond, number, ⟨start, stop⟩⟩ :: stepsFrom ofSecond (number + 1) (stop :: rest)
  | _ => []

/-- The steps of two chains. -/
def steps (first second : List (Point Float)) : List Step :=
  stepsFrom false 0 first ++ stepsFrom true 0 second

/-- Visit each item together with each later one. -/
def foldPairs {α β : Type} (visit : β → α → α → β) : List α → β → β
  | [], state => state
  | item :: rest, state =>
    foldPairs visit rest (rest.foldl (fun state other => visit state item other) state)

namespace Step

/-- Whether a step comes right after another one in its chain. -/
def follows (later earlier : Step) : Bool :=
  later.ofSecond == earlier.ofSecond && later.number == earlier.number + 1

def cutAt (step : Step) (place : Point Float) : Cut := ⟨step.ofSecond, step.number, place⟩

/-- Cut two steps where they meet.  That one step begins where the step before it ends is no
reason. -/
def cuts (known : List Cut) (first second : Step) : List Cut :=
  match first.segment.meeting second.segment with
  | [] => known
  | [place] =>
    if second.follows first then known
    else first.cutAt place :: second.cutAt place :: known
  | places => places.map first.cutAt ++ places.map second.cutAt ++ known

/-- The cuts that fall on a step, beyond its start. -/
def inner (step : Step) (cuts : List Cut) : List (Point Float) :=
  let places := cuts.foldl (fun places cut =>
    if cut.ofSecond == step.ofSecond && cut.number == step.number &&
        !step.segment.hasEnd cut.place && !places.any (cut.place.coincides ·) then
      cut.place :: places
    else places) []
  places.mergeSort fun first second => !step.segment.reachesFirst second first

/-- Whether the chain is cut at the start of a step. -/
def startsCut (step : Step) (cuts : List Cut) : Bool :=
  step.number == 0 || cuts.any fun cut =>
    cut.ofSecond == step.ofSecond && (cut.number == step.number || cut.number + 1 == step.number) &&
      cut.place.coincides step.segment.start

end Step

/-- The joints of the chain that some steps make up. -/
def joints (cuts : List Cut) (steps : List Step) : List Joint :=
  let last := steps.getLast?.map fun step => ⟨step.segment.stop, true⟩
  (steps.flatMap fun step =>
    ⟨step.segment.start, step.startsCut cuts⟩ :: (step.inner cuts).map (⟨·, true⟩)) ++ last.toList

def piecesFrom (ofSecond : Bool) (number : Nat) : List Joint → List Piece
  | opening :: closing :: rest =>
    ⟨ofSecond, number, opening, closing⟩ :: piecesFrom ofSecond (number + 1) (closing :: rest)
  | _ => []

/-- The pieces that cuts leave of two chains. -/
def pieces (steps : List Step) (cuts : List Cut) : List Piece :=
  let (second, first) := steps.partition (·.ofSecond)
  piecesFrom false 0 (joints cuts first) ++ piecesFrom true 0 (joints cuts second)

namespace Piece

def segment (piece : Piece) : Segment := ⟨piece.opening.place, piece.closing.place⟩

/-- Whether two pieces follow each other and the chain is not cut between them. -/
def continues (later earlier : Piece) : Bool :=
  later.ofSecond == earlier.ofSecond && later.number == earlier.number + 1 &&
    !earlier.closing.isCut

/-- Whether two pieces meet only at cuts, which are ends of both. -/
def isApart (first second : Piece) : Bool :=
  (first.segment.meeting second.segment).all (fun place =>
    first.segment.hasEnd place && second.segment.hasEnd place) &&
    (second.continues first ||
      [first.opening, first.closing].all fun joint =>
        [second.opening, second.closing].all fun other =>
          !joint.place.coincides other.place || (joint.isCut && other.isCut))

end Piece

/-- Whether no two pieces meet except at cuts. -/
def areApart (pieces : List Piece) : Bool :=
  foldPairs (fun apart first second => apart && first.isApart second) pieces true

/-- Points that have been drawn together so far. -/
abbrev Anchors := List (Point Float)

/-- Draw a point to the nearest anchor within a tolerance, of several at one distance the first in
reading order.  A point without an anchor becomes one. -/
def draw (tolerance : Float) (anchors : Anchors) (point : Point Float) : Point Float × Anchors :=
  let closer (best : Option (Point Float)) (anchor : Point Float) : Option (Point Float) :=
    if tolerance < (anchor.x - point.x).abs || tolerance < (anchor.y - point.y).abs ||
        tolerance < point.gap anchor then best
    else
      match best with
      | none => some anchor
      | some other =>
        if point.gap anchor < point.gap other ||
            (point.gap anchor == point.gap other && anchor.precedes other) then some anchor
        else best
  match anchors.foldl closer none with
  | some anchor => (anchor, anchors)
  | none => (point, point :: anchors)

/-- Draw the points of a chain in order. -/
def drawAll (tolerance : Float) (anchors : Anchors) :
    List (Point Float) → List (Point Float) × Anchors
  | [] => ([], anchors)
  | point :: rest =>
    let (drawn, anchors) := draw tolerance anchors point
    let (others, anchors) := drawAll tolerance anchors rest
    (drawn :: others, anchors)

/-- Cut a step and its neighbour in the other chain where an end of the neighbour nearly lies on
the step, but not near an end of the step. -/
def cutNear (tolerance : Float) (target source : Step) (cuts : List Cut) (point : Point Float) :
    List Cut :=
  if point.gap target.segment.start < tolerance || point.gap target.segment.stop < tolerance then
    cuts
  else if target.segment.distanceTo point < tolerance then
    target.cutAt point :: source.cutAt point :: cuts
  else cuts

/-- Cut two steps where they meet or nearly meet, at points drawn together. -/
def cutDrawn (tolerance : Float) (state : List Cut × Anchors) (first second : Step) :
    List Cut × Anchors :=
  let (cuts, anchors) := state
  let (cuts, anchors) :=
    match first.segment.meeting second.segment with
    | [place] =>
      if second.follows first then (cuts, anchors)
      else
        let (place, anchors) := draw tolerance anchors place
        (first.cutAt place :: second.cutAt place :: cuts, anchors)
    | _ => (cuts, anchors)
  let cuts := [first.segment.start, first.segment.stop].foldl (cutNear tolerance second first) cuts
  ([second.segment.start, second.segment.stop].foldl (cutNear tolerance first second) cuts,
    anchors)

/-- How far apart points may be to be drawn together: a trillionth of the largest coordinate. -/
def tolerance (points : List (Point Float)) : Float :=
  points.foldl (fun largest point =>
    let larger (first second : Float) := if first < second then second else first
    larger (larger largest point.x.abs) point.y.abs) 0 / 1e12

/-- The pieces of two chains cut where they meet. -/
def cutPieces (first second : List (Point Float)) : List Piece :=
  let steps := steps first second
  pieces steps (foldPairs Step.cuts steps [])

/-- The pieces of two chains whose points are drawn together, cut where they nearly meet. -/
def drawnPieces (first second : List (Point Float)) : List Piece :=
  let tolerance := tolerance (first ++ second)
  let (first, anchors) := drawAll tolerance [] first
  let (second, anchors) := drawAll tolerance anchors second
  let steps := steps (dropRepeats first) (dropRepeats second)
  pieces steps (foldPairs (cutDrawn tolerance) steps ([], anchors)).1

/-- The segments of one chain among the pieces, in reading order of their ends, each once. -/
def segments (ofSecond : Bool) (pieces : List Piece) : List Segment :=
  pieces.foldl (fun segments piece =>
    let segment := piece.segment.forward
    if piece.ofSecond != ofSecond || segment.start.coincides segment.stop ||
        segments.any segment.coincides then segments
    else segment :: segments) []

/-- The segments that both chains have, in reading order. -/
def shared (pieces : List Piece) : List Segment :=
  let ofSecond := segments true pieces
  ((segments false pieces).filter fun segment => ofSecond.any segment.coincides).mergeSort
    fun first second => !second.precedes first

/-- The segments along which two chains of points touch. -/
def between (first second : List (Point Float)) : List Segment :=
  let first := dropRepeats first
  let second := dropRepeats second
  let cut := cutPieces first second
  shared (if areApart cut then cut else drawnPieces first second)

end Egress.Contact
