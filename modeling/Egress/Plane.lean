import Egress.Box

/-!
# What the planner asks of the plane

A building is made of outlines.  The planner never looks inside one: it asks whether a list of
points bounds an area, how large that area is and where its centre lies, which box it lies in,
whether it covers a point, how much area two outlines share, and how long and where they touch.  Any
geometry that answers these questions will do.

The lawful classes say what is expected of the answers: an outline covers no point outside its box,
and what is said about two points or two outlines does not depend on their order.
-/

namespace Egress

/-- Why a list of points is no outline. -/
inductive OutlineFlaw where
  /-- One or two points. -/
  | tooFewPoints
  /-- No points, a coordinate that is not finite, or a ring that crosses or touches itself or
  encloses nothing. -/
  | notSimple
  deriving Repr, DecidableEq, Inhabited

/-- A plane with distances. -/
class Metric (α : Type) where
  distance : Point α → Point α → α

/-- Outlines `σ` over coordinates `α`. -/
class Outline (σ : Type) (α : outParam Type) where
  /-- The outline through the points, in order. -/
  ofPoints : List (Point α) → Except OutlineFlaw σ
  /-- The points of an outline, the first one repeated at the end. -/
  vertices : σ → List (Point α)
  area : σ → α
  centre : σ → Point α
  /-- An upright box around an outline. -/
  box : σ → Box α
  /-- Whether a point lies inside or on the boundary. -/
  covers : σ → Point α → Bool
  /-- The area that two outlines share. -/
  sharedArea : σ → σ → α
  /-- The length of the boundary that two outlines share. -/
  contactLength : σ → σ → α
  /-- The middle of the boundary that two outlines share, weighted by length. -/
  contactCentre : σ → σ → Point α

class LawfulMetric (α : Type) [Metric α] : Prop where
  distance_comm (first second : Point α) :
    Metric.distance first second = Metric.distance second first

class LawfulOutline (σ : Type) {α : outParam Type} [Scalar α] [Outline σ α] : Prop where
  contains_of_covers (outline : σ) (point : Point α) :
    Outline.covers outline point = true → (Outline.box outline).contains point = true
  sharedArea_comm (first second : σ) :
    Outline.sharedArea first second = Outline.sharedArea second first
  contactLength_comm (first second : σ) :
    Outline.contactLength first second = Outline.contactLength second first
  contactCentre_comm (first second : σ) :
    Outline.contactCentre first second = Outline.contactCentre second first

end Egress
